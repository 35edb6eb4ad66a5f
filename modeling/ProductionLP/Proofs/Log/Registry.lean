import Mathlib.Data.List.Infix
import Mathlib.Data.List.Nodup
import ProductionLP.Log.Run

/- Registries over any requests.

   A registry is asked for loggers and told levels in any order, and it may refuse either. This
   module says what it keeps all the same:

   1. every logger stays at the place where it was made (`names_prefix_after`), names are
      distinct, and a name yields the logger at its place from then on (`Kept.yields`);
   2. every logger has the standard level whenever the standard is a level, one handler, and
      passes nothing on (`Kept`);
   3. the standard is a level as long as levels are given as integers, truth values or texts
      (`Settled`), and then no name is refused (`Kept.exists_get`);
   4. a refused level leaves all loggers alone (`loggers_of_refused`), and one that is given as
      levels may be leaves the standard alone as well (`setLevel_of_refused`).

   Each request does one of four things (`after_cases`), and the rest is read off from these.

   A value that cannot be a level becomes the standard although the first logger refuses it, and
   no logger can be made then (`null_becomes_standard`). -/
namespace ProductionLP

/-- What a level may be given as: an integer, a truth value, or a text. -/
def Level.isGiven : Value → Bool
  | .int _ => true
  | .bool _ => true
  | .text _ => true
  | _ => false

namespace Registry

/-- What a registry is asked. -/
inductive Request where
  | get (name : Option String)
  | setLevel (level : Value)

/-- The request gives a level, if it does, as levels may be given. -/
def Request.isProper : Request → Bool
  | .get _ => true
  | .setLevel v => Level.isGiven v

/-- The registry after a request, be it granted or refused. -/
def after (r : Registry) : Request → Registry
  | .get name =>
    match r.get name with
    | .ok (r, _) => r
    | .error _ => r
  | .setLevel v => (r.setLevel v).1

/-- The registry after requests one after the other. -/
def afterAll (r : Registry) (requests : List Request) : Registry := requests.foldl after r

/-- The full names of the loggers, in the order in which they were made. -/
def names (r : Registry) : List String := r.loggers.map Logger.name

/-- A new logger. -/
def made (name : Option String) (level : Level) : Logger := ⟨fullName name, level, 1, false⟩

/-- The registry with one logger more. -/
def withLogger (r : Registry) (l : Logger) : Registry := { r with loggers := r.loggers ++ [l] }

/-- The registry with a standard that is a level, which all loggers have. -/
def withLevel (r : Registry) (v : Value) (level : Level) : Registry :=
  ⟨v, r.loggers.map fun l => { l with level := level }⟩

variable {r : Registry} {name : Option String} {n : String} {i : Nat} {l : Logger}
  {level : Level} {v : Value}

theorem afterAll_append (r : Registry) (before later : List Request) :
    r.afterAll (before ++ later) = (r.afterAll before).afterAll later :=
  List.foldl_append

/-! ## What a request does -/

theorem find?_eq_none_iff : r.find? n = none ↔ n ∉ r.names := by
  simp [find?, names]

/-- With distinct names a name finds the logger at its place. -/
theorem find?_of_place (hdistinct : r.names.Nodup) (hi : r.names[i]? = some n) :
    ∃ l, r.find? n = some l ∧ r.loggers[i]? = some l := by
  rw [names, List.getElem?_map, Option.map_eq_some_iff] at hi
  obtain ⟨l, hl, rfl⟩ := hi
  obtain ⟨hlt, rfl⟩ := List.getElem?_eq_some_iff.1 hl
  refine ⟨_, List.find?_eq_some_iff_getElem.2 ⟨beq_self_eq_true _, i, hlt, rfl, ?_⟩, hl⟩
  -- a logger before it has another name
  intro j hji
  have hne := List.nodup_iff_getElem?_ne_getElem?.1 hdistinct j i hji (by simpa [names] using hlt)
  have hj : j < r.loggers.length := Nat.lt_trans hji hlt
  simpa [names, List.getElem?_eq_getElem hj, List.getElem?_eq_getElem hlt] using hne

theorem get_of_find? (h : r.find? (fullName name) = some l) : r.get name = .ok (r, l) := by
  rw [get, h]

/-- A new name yields a new logger at the standard level. -/
theorem get_of_level (h : fullName name ∉ r.names)
    (hlevel : Level.ofValue? r.standard = some level) :
    r.get name = .ok (r.withLogger (made name level), made name level) := by
  rw [get, find?_eq_none_iff.2 h]
  simp only [hlevel]
  rfl

/-- A new name is refused when the standard is no level. -/
theorem get_of_no_level (h : fullName name ∉ r.names) (hlevel : Level.ofValue? r.standard = none) :
    r.get name = .error .wrongKind := by
  rw [get, find?_eq_none_iff.2 h]
  simp only [hlevel]

/-- All that asking for a logger can do to a registry. -/
theorem after_get_cases (r : Registry) (name : Option String) :
    r.after (.get name) = r ∨
      ∃ level, fullName name ∉ r.names ∧ Level.ofValue? r.standard = some level ∧
        r.after (.get name) = r.withLogger (made name level) := by
  cases hfind : r.find? (fullName name) with
  | some l =>
    rw [after, get_of_find? hfind]
    exact .inl rfl
  | none =>
    have hnew := find?_eq_none_iff.1 hfind
    cases hlevel : Level.ofValue? r.standard with
    | none =>
      rw [after, get_of_no_level hnew hlevel]
      exact .inl rfl
    | some level =>
      rw [after, get_of_level hnew hlevel]
      exact .inr ⟨level, hnew, rfl, rfl⟩

theorem setLevel_of_unknown {s : String} (h : Level.ofName? (Text.capitals s) = none) :
    r.setLevel (.text s) = (r, .error (.unknownLevel s)) := by
  rw [setLevel, requested]
  simp only [h]

/-- All that giving a level can do: a name that no level has changes nothing, a level becomes the
    standard and the level of every logger, and any other value becomes the standard alone and is
    refused by the first logger. -/
theorem setLevel_cases (r : Registry) (v : Value) :
    (∃ s, v = .text s ∧ Level.ofName? (Text.capitals s) = none ∧
        r.setLevel v = (r, .error (.unknownLevel s))) ∨
      (∃ w level, Level.isGiven v = true ∧ Level.ofValue? w = some level ∧
        r.setLevel v = (r.withLevel w level, .ok ())) ∨
      (Level.isGiven v = false ∧ Level.ofValue? v = none ∧
        r.setLevel v = ({ r with standard := v },
          if r.loggers.isEmpty then .ok () else .error (.fault .wrongKind))) := by
  cases v with
  | text s =>
    cases h : Level.ofName? (Text.capitals s) with
    | none => exact .inl ⟨s, rfl, h, setLevel_of_unknown h⟩
    | some k =>
      refine .inr (.inl ⟨.int k, .number k, rfl, rfl, ?_⟩)
      rw [setLevel, requested]
      simp only [h]
      rfl
  | int k => exact .inr (.inl ⟨.int k, .number k, rfl, rfl, rfl⟩)
  | bool b => exact .inr (.inl ⟨.bool b, .truth b, rfl, rfl, rfl⟩)
  | _ => exact .inr (.inr ⟨rfl, rfl, rfl⟩)

/-- All that a request can do: nothing, add a logger with a new name, set a level, or replace the
    standard by a value that is no level. -/
theorem after_cases (r : Registry) (q : Request) :
    r.after q = r ∨
      (∃ name level, fullName name ∉ r.names ∧ Level.ofValue? r.standard = some level ∧
        r.after q = r.withLogger (made name level)) ∨
      (∃ w level, Level.ofValue? w = some level ∧ r.after q = r.withLevel w level) ∨
      (∃ v, q.isProper = false ∧ Level.ofValue? v = none ∧
        r.after q = { r with standard := v }) := by
  cases q with
  | get name =>
    rcases after_get_cases r name with heq | ⟨level, hnew, hlevel, heq⟩
    · exact .inl heq
    · exact .inr (.inl ⟨name, level, hnew, hlevel, heq⟩)
  | setLevel v =>
    rw [after]
    rcases setLevel_cases r v with ⟨s, _, _, heq⟩ | ⟨w, level, _, hlevel, heq⟩ | ⟨hv, hlevel, heq⟩
    · exact .inl (by rw [heq])
    · exact .inr (.inr (.inl ⟨w, level, hlevel, by rw [heq]⟩))
    · exact .inr (.inr (.inr ⟨v, hv, hlevel, by rw [heq]⟩))

/-! ## What every request keeps -/

/-- What holds of a registry whatever it has been asked. -/
structure Kept (r : Registry) : Prop where
  distinct : r.names.Nodup
  level : ∀ level, Level.ofValue? r.standard = some level → ∀ l ∈ r.loggers, l.level = level
  handlers : ∀ l ∈ r.loggers, l.handlers = 1
  propagates : ∀ l ∈ r.loggers, l.propagates = false

theorem kept_empty : empty.Kept := by
  constructor <;> simp [empty, names]

theorem names_withLogger (r : Registry) (l : Logger) :
    (r.withLogger l).names = r.names ++ [l.name] := by
  simp [withLogger, names]

theorem names_withLevel (r : Registry) (v : Value) (level : Level) :
    (r.withLevel v level).names = r.names := by
  simp [withLevel, names]

theorem Kept.withLogger (h : r.Kept) (hnew : fullName name ∉ r.names)
    (hlevel : Level.ofValue? r.standard = some level) : (r.withLogger (made name level)).Kept := by
  -- a property of the old loggers and the new one is one of all
  have hall : ∀ P : Logger → Prop, (∀ l ∈ r.loggers, P l) → P (made name level) →
      ∀ l ∈ (r.withLogger (made name level)).loggers, P l := by
    intro P hold hmade l hl
    rcases List.mem_append.1 hl with hl | hl
    · exact hold l hl
    · rw [List.mem_singleton.1 hl]
      exact hmade
  refine ⟨?_, fun level' hlevel' => ?_, hall _ h.handlers rfl, hall _ h.propagates rfl⟩
  · rw [names_withLogger, List.nodup_append_comm]
    exact List.nodup_cons.2 ⟨hnew, h.distinct⟩
  · cases hlevel.symm.trans hlevel'
    exact hall _ (h.level level hlevel) rfl

theorem Kept.withLevel (h : r.Kept) (hlevel : Level.ofValue? v = some level) :
    (r.withLevel v level).Kept := by
  have hall : ∀ P : Logger → Prop, (∀ l ∈ r.loggers, P { l with level := level }) →
      ∀ l ∈ (r.withLevel v level).loggers, P l := by
    intro P hold l hl
    obtain ⟨old, hmem, rfl⟩ := List.mem_map.1 hl
    exact hold old hmem
  refine ⟨?_, fun level' hlevel' => ?_, hall _ h.handlers, hall _ h.propagates⟩
  · rw [names_withLevel]
    exact h.distinct
  · cases hlevel.symm.trans hlevel'
    exact hall _ fun _ _ => rfl

/-- A standard that is no level says nothing about the loggers. -/
theorem Kept.withoutLevel (h : r.Kept) (hlevel : Level.ofValue? v = none) :
    ({ r with standard := v } : Registry).Kept where
  distinct := h.distinct
  level _ hsome := by cases hlevel.symm.trans hsome
  handlers := h.handlers
  propagates := h.propagates

theorem Kept.after (h : r.Kept) (q : Request) : (r.after q).Kept := by
  rcases after_cases r q with heq | ⟨name, level, hnew, hlevel, heq⟩ | ⟨w, level, hlevel, heq⟩ |
    ⟨v, _, hlevel, heq⟩
  · rw [heq]
    exact h
  · rw [heq]
    exact h.withLogger hnew hlevel
  · rw [heq]
    exact h.withLevel hlevel
  · rw [heq]
    exact h.withoutLevel hlevel

theorem Kept.afterAll (h : r.Kept) (requests : List Request) : (r.afterAll requests).Kept := by
  induction requests generalizing r with
  | nil => exact h
  | cons q rest ih => exact ih (h.after q)

/-! ## Loggers stay at their places -/

/-- Names are added behind those that are there. -/
theorem names_prefix_after (r : Registry) (q : Request) : r.names <+: (r.after q).names := by
  rcases after_cases r q with heq | ⟨name, level, _, _, heq⟩ | ⟨w, level, _, heq⟩ | ⟨v, _, _, heq⟩
  · rw [heq]
  · rw [heq, names_withLogger]
    exact List.prefix_append _ _
  · rw [heq, names_withLevel]
  · rw [heq]
    exact List.prefix_refl _

theorem names_prefix_afterAll (r : Registry) (requests : List Request) :
    r.names <+: (r.afterAll requests).names := by
  induction requests generalizing r with
  | nil => exact List.prefix_refl _
  | cons q rest ih => exact (names_prefix_after r q).trans (ih (r.after q))

/-- The name yields the logger at a place, and no logger is made for it. -/
def Yields (r : Registry) (name : Option String) (i : Nat) : Prop :=
  ∃ l, r.get name = .ok (r, l) ∧ r.loggers[i]? = some l

theorem Kept.yields (h : r.Kept) (hi : r.names[i]? = some (fullName name)) : r.Yields name i := by
  obtain ⟨l, hfind, hl⟩ := find?_of_place h.distinct hi
  exact ⟨l, get_of_find? hfind, hl⟩

/-- A name yields the same logger after any requests. -/
theorem Kept.yields_afterAll (h : r.Kept) (hi : r.names[i]? = some (fullName name))
    (later : List Request) : (r.afterAll later).Yields name i := by
  obtain ⟨hlt, hget⟩ := List.getElem?_eq_some_iff.1 hi
  have hprefix := names_prefix_afterAll r later
  refine (h.afterAll later).yields ?_
  rw [List.prefix_iff_getElem?.1 hprefix i hlt, hget]

/-! ## A standard that is a level -/

/-- The standard is a level. -/
def Settled (r : Registry) : Prop := ∃ level, Level.ofValue? r.standard = some level

theorem settled_empty : empty.Settled := ⟨.number Level.warning, rfl⟩

theorem Settled.after (h : r.Settled) {q : Request} (hq : q.isProper = true) :
    (r.after q).Settled := by
  rcases after_cases r q with heq | ⟨name, level, _, _, heq⟩ | ⟨w, level, hlevel, heq⟩ |
    ⟨v, hv, _, _⟩
  · rw [heq]
    exact h
  · rw [heq]
    exact h
  · rw [heq]
    exact ⟨level, hlevel⟩
  · cases hv.symm.trans hq

theorem Settled.afterAll (h : r.Settled) {requests : List Request}
    (hproper : ∀ q ∈ requests, q.isProper = true) : (r.afterAll requests).Settled := by
  induction requests generalizing r with
  | nil => exact h
  | cons q rest ih =>
    obtain ⟨hq, hrest⟩ := List.forall_mem_cons.1 hproper
    exact ih (h.after hq) hrest

/-- A registry that is told a level and does not refuse it has a standard that is a level. -/
theorem settled_of_setLevel (hv : Level.isGiven v = true) (hok : (r.setLevel v).2 = .ok ()) :
    (r.setLevel v).1.Settled := by
  rcases setLevel_cases r v with ⟨s, _, _, heq⟩ | ⟨w, level, _, hlevel, heq⟩ | ⟨hnot, _, _⟩
  · rw [heq] at hok
    cases hok
  · rw [heq]
    exact ⟨level, hlevel⟩
  · cases hnot.symm.trans hv

/-- With a standard that is a level every name yields a logger, which stands at a place of the
    registry afterwards. -/
theorem Kept.exists_get (h : r.Kept) (hs : r.Settled) (name : Option String) :
    ∃ (l : Logger) (i : Nat), r.get name = .ok (r.after (.get name), l) ∧
      (r.after (.get name)).loggers[i]? = some l ∧
      (r.after (.get name)).names[i]? = some (fullName name) := by
  by_cases hmem : fullName name ∈ r.names
  · obtain ⟨i, hi⟩ := List.mem_iff_getElem?.1 hmem
    obtain ⟨l, hget, hl⟩ := h.yields hi
    have hafter : r.after (.get name) = r := by rw [Registry.after, hget]
    rw [hafter]
    exact ⟨l, i, hget, hl, hi⟩
  · obtain ⟨level, hlevel⟩ := hs
    have hget := get_of_level hmem hlevel
    have hafter : r.after (.get name) = r.withLogger (made name level) := by
      rw [Registry.after, hget]
    have hplace : (r.withLogger (made name level)).loggers[r.loggers.length]? =
        some (made name level) := List.getElem?_concat_length
    rw [hafter]
    refine ⟨made name level, r.loggers.length, hget, hplace, ?_⟩
    rw [names, List.getElem?_map, hplace]
    rfl

/-! ## One level for all loggers -/

/-- **All loggers share one level.** After any requests whose levels are given as levels may be,
    every logger has the standard level, one handler, and passes nothing on. A name yields a
    logger, and after any further requests every name with the same full name yields the logger at
    the same place. A name that no level has changes nothing. -/
theorem loggers_share_level {requests : List Request}
    (hproper : ∀ q ∈ requests, q.isProper = true) (hr : empty.afterAll requests = r) :
    (∃ level, Level.ofValue? r.standard = some level ∧
      ∀ l ∈ r.loggers, l.level = level ∧ l.handlers = 1 ∧ l.propagates = false) ∧
    (∀ name, ∃ (l : Logger) (i : Nat), r.get name = .ok (r.after (.get name), l) ∧
      (r.after (.get name)).loggers[i]? = some l ∧
      ∀ later other, fullName other = fullName name →
        ((r.after (.get name)).afterAll later).Yields other i) ∧
    ∀ s, Level.ofName? (Text.capitals s) = none →
      r.setLevel (.text s) = (r, .error (.unknownLevel s)) := by
  subst hr
  have hkept := kept_empty.afterAll requests
  have hsettled := settled_empty.afterAll hproper
  refine ⟨?_, fun name => ?_, fun s hs => setLevel_of_unknown hs⟩
  · obtain ⟨level, hlevel⟩ := hsettled
    exact ⟨level, hlevel, fun l hl => ⟨hkept.level level hlevel l hl, hkept.handlers l hl,
      hkept.propagates l hl⟩⟩
  · obtain ⟨l, i, hget, hl, hi⟩ := hkept.exists_get hsettled name
    refine ⟨l, i, hget, hl, fun later other hother => ?_⟩
    exact (hkept.after _).yields_afterAll (hother ▸ hi) later

/-- Two loggers, asked for before and after changes of the level, one of which is refused. -/
def mixed : List Request :=
  [.get none, .setLevel (.text "debug"), .get (some "cli"), .setLevel (.text "LOUD"),
    .setLevel (.int 7), .get (some "simplex_tableau.cli")]

theorem unknown_loud : Level.ofName? (Text.capitals "LOUD") = none := by decide +kernel

theorem loggers_share_level_mixed :
    (∀ q ∈ mixed, q.isProper = true) ∧
      (empty.afterAll mixed).names = ["simplex_tableau", "simplex_tableau.cli"] ∧
      (∀ l ∈ (empty.afterAll mixed).loggers,
        l.level = .number 7 ∧ l.handlers = 1 ∧ l.propagates = false) ∧
      (empty.afterAll mixed).setLevel (.text "LOUD") =
        (empty.afterAll mixed, .error (.unknownLevel "LOUD")) := by
  have hproper : ∀ q ∈ mixed, q.isProper = true := by decide
  obtain ⟨⟨level, hlevel, hall⟩, _, hunknown⟩ := loggers_share_level hproper rfl
  have hseven : Level.ofValue? (empty.afterAll mixed).standard = some (.number 7) := by
    decide +kernel
  cases hseven.symm.trans hlevel
  exact ⟨hproper, by decide +kernel, hall, hunknown "LOUD" unknown_loud⟩

/-! ## Refused levels -/

theorem loggers_of_refused {e : Error} (h : (r.setLevel v).2 = .error e) :
    (r.setLevel v).1.loggers = r.loggers := by
  rcases setLevel_cases r v with ⟨s, _, _, heq⟩ | ⟨w, level, _, _, heq⟩ | ⟨_, _, heq⟩
  · rw [heq]
  · rw [heq] at h
    cases h
  · rw [heq]

/-- A level that is given as levels may be is refused before anything changes. -/
theorem setLevel_of_refused {e : Error} (hv : Level.isGiven v = true)
    (h : (r.setLevel v).2 = .error e) : (r.setLevel v).1 = r := by
  rcases setLevel_cases r v with ⟨s, _, _, heq⟩ | ⟨w, level, _, _, heq⟩ | ⟨hnot, _, _⟩
  · rw [heq]
  · rw [heq] at h
    cases h
  · cases hnot.symm.trans hv

/-- With a standard that is a level no name is refused, as long as levels are given as levels may
    be. -/
theorem Kept.get_afterAll (h : r.Kept) (hs : r.Settled) {later : List Request}
    (hlater : ∀ q ∈ later, q.isProper = true) (name : Option String) :
    ∃ found, (r.afterAll later).get name = .ok found := by
  obtain ⟨l, _, hget, _⟩ := (h.afterAll later).exists_get (hs.afterAll hlater) name
  exact ⟨_, hget⟩

/-- **A refused level leaves the loggers alone.** Whatever a registry has been asked, a level that
    it refuses changes no logger, and every name that is registered by then yields the logger at
    its place ever after. If the level is given as levels may be, nothing at all has changed, and
    no later name is refused unless a level was or is given otherwise. In any case no name is
    refused after a level that is accepted. -/
theorem refused_level_keeps {requests : List Request} (hr : empty.afterAll requests = r)
    {e : Error} (hrefused : (r.setLevel v).2 = .error e) :
    (r.setLevel v).1.loggers = r.loggers ∧
    (∀ (name : Option String) (i : Nat), r.names[i]? = some (fullName name) →
      ∀ later, ((r.setLevel v).1.afterAll later).Yields name i) ∧
    (Level.isGiven v = true → (r.setLevel v).1 = r ∧
      ((∀ q ∈ requests, q.isProper = true) → ∀ later, (∀ q ∈ later, q.isProper = true) →
        ∀ name, ∃ found, ((r.setLevel v).1.afterAll later).get name = .ok found)) ∧
    ∀ before w later, Level.isGiven w = true →
      (((r.setLevel v).1.afterAll before).setLevel w).2 = .ok () →
      (∀ q ∈ later, q.isProper = true) → ∀ name, ∃ found,
        ((r.setLevel v).1.afterAll (before ++ .setLevel w :: later)).get name = .ok found := by
  subst hr
  have hkept := kept_empty.afterAll requests
  -- the registry is kept by refused requests too, so what follows needs no case split on the value
  have hkept' : ((empty.afterAll requests).setLevel v).1.Kept := hkept.after (.setLevel v)
  have hloggers := loggers_of_refused hrefused
  refine ⟨hloggers, fun name i hi later => ?_, fun hv => ?_,
    fun before w later hw hok hlater name => ?_⟩
  · refine hkept'.yields_afterAll ?_ later
    rw [names, hloggers]
    exact hi
  · have hsame := setLevel_of_refused hv hrefused
    rw [hsame]
    exact ⟨rfl, fun hproper later hlater name =>
      hkept.get_afterAll (settled_empty.afterAll hproper) hlater name⟩
  · rw [afterAll_append]
    exact ((hkept'.afterAll before).after (.setLevel w)).get_afterAll
      (settled_of_setLevel hw hok) hlater name

theorem refused_level_keeps_mixed :
    ((empty.afterAll mixed).setLevel (.text "LOUD")).2 = .error (.unknownLevel "LOUD") ∧
      ((empty.afterAll mixed).setLevel (.text "LOUD")).1 = empty.afterAll mixed ∧
      ∀ name, ∃ found,
        (((empty.afterAll mixed).setLevel (.text "LOUD")).1.afterAll mixed).get name = .ok found := by
  have hrefused : ((empty.afterAll mixed).setLevel (.text "LOUD")).2 =
      .error (.unknownLevel "LOUD") := by rw [setLevel_of_unknown unknown_loud]
  have hproper : ∀ q ∈ mixed, q.isProper = true := by decide
  obtain ⟨_, _, hgiven, _⟩ := refused_level_keeps rfl hrefused
  obtain ⟨hsame, hlater⟩ := hgiven rfl
  exact ⟨hrefused, hsame, hlater hproper mixed hproper⟩

/-- A value that is no level does become the standard although it is refused, and then a new name
    is refused as well. -/
theorem null_becomes_standard :
    let r := empty.afterAll [.get (some "app"), .get (some "cli"), .get (some "simplex")]
    (r.setLevel .null).2 = .error (.fault .wrongKind) ∧
      (r.setLevel .null).1.standard ≠ r.standard ∧
      (r.setLevel .null).1.get (some "late") = .error .wrongKind :=
  ⟨rfl, nofun, rfl⟩

end Registry

end ProductionLP
