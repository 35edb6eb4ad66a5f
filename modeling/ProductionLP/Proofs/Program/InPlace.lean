import ProductionLP.Config.Source

/- Parts in place.

   A payload is read in two ways: on its own (`Program.ofPayload`), where every part has to
   stand in it, and as a section of a configuration (`Config.programOf`), where a part may also
   be named by the path of a file. The first looks a key up, the second first asks whether the
   mapping has the key. Both come to the same (`mentions_eq`, `agree_part`), so the two ways
   agree on every payload that names a path only beside the part itself (`loaders_agree`): in
   what they yield, in whether they fail, and in which part they find missing. -/
namespace ProductionLP

/-! ## Agreement of computations -/

section Agreement

variable {α β : Type}

/-- Errors of one class: the same error, or the two problem errors that say of a part that it is
    not given. -/
inductive Error.SameClass : Error → Error → Prop where
  | same (e : Error) : SameClass e e
  | missing (name : String) :
    SameClass (.problem (.missingField name)) (.problem (.missingSource name))

/-- Two computations agree when they yield the same value or fail with errors of one class. -/
inductive Agree : Except Error α → Except Error α → Prop where
  | ok (a : α) : Agree (.ok a) (.ok a)
  | error {e e' : Error} (h : e.SameClass e') : Agree (.error e) (.error e')

theorem Agree.refl (x : Except Error α) : Agree x x := by
  cases x with
  | error e => exact .error (.same e)
  | ok a => exact .ok a

/-- Computations in sequence agree when their parts do. -/
theorem Agree.bind {x y : Except Error α} {f g : α → Except Error β} (h : Agree x y)
    (hf : ∀ a, Agree (f a) (g a)) : Agree (x >>= f) (y >>= g) := by
  cases h with
  | ok a => exact hf a
  | error h => exact .error h

/-- What it means to agree, case by case. -/
theorem Agree.ok_or_error {x y : Except Error α} (h : Agree x y) :
    (∃ a, x = .ok a ∧ y = .ok a) ∨ ∃ e e', x = .error e ∧ y = .error e' ∧ e.SameClass e' := by
  cases h with
  | ok a => exact .inl ⟨a, rfl, rfl⟩
  | error h => exact .inr ⟨_, _, rfl, rfl, h⟩

end Agreement

/-! ## Looking into mappings -/

section Mappings

open Config

variable {key : String} {raw v : Value} {entries : List (Value × Value)}

/-- No value but the text itself is the same key as a text. -/
theorem Value.sameKey_text (v : Value) (word : String) :
    v.sameKey (.text word) = match v with
      | .text s => s == word
      | _ => false := by
  cases v <;> rfl

theorem Value.any_sameKey (word : String) (entries : List (Value × Value)) :
    (entries.any fun e => e.1.sameKey (.text word)) = (Value.lookup word entries).isSome := by
  induction entries with
  | nil => rfl
  | cons e rest ih =>
    obtain ⟨k, v⟩ := e
    rw [List.any_cons, Value.sameKey_text, ih]
    cases k with
    | text s => by_cases h : s = word <;> simp [Value.lookup, h]
    | _ => rfl

theorem Value.face_of_entries? (h : raw.entries? = some entries) : raw.face = .map entries := by
  rw [Value.entries?] at h
  split at h
  · next hface => rw [hface, Option.some.inj h]
  · cases h

/-- A mapping mentions the keys that it has. -/
theorem mentions_eq (h : raw.entries? = some entries) (word : String) :
    mentions word raw = .ok (Value.lookup word entries).isSome := by
  rw [mentions, Value.face_of_entries? h, ← Value.any_sameKey]

theorem Value.field?_eq (h : raw.entries? = some entries) (key : String) :
    raw.field? key = .ok (Value.lookup key entries) := by
  rw [Value.field?, h]

/-- A part that stands in place is taken from there. -/
theorem part_of_lookup (tree : FileTree) (base : Path) (vector : Bool)
    (h : raw.entries? = some entries) (hv : Value.lookup key entries = some v) :
    part tree base vector key raw = .ok v := by
  rw [part, mentions_eq h, hv, itemOf, h]
  simp only [Option.bind_some, hv]
  rfl

theorem required_of_lookup (h : raw.entries? = some entries)
    (hv : Value.lookup key entries = some v) : Program.required key raw = .ok v := by
  rw [Program.required, h]
  simp only [hv]

/-- A path is given for a part only beside the part itself. -/
def NoLonePath (key : String) (raw : Value) : Prop :=
  ∀ entries, raw.entries? = some entries → (Value.lookup (pathKey key) entries).isSome = true →
    (Value.lookup key entries).isSome = true

/-- Looking a part up and asking for it first agree, unless a path stands in for it. -/
theorem agree_part (tree : FileTree) (base : Path) (vector : Bool)
    (h : raw.entries? = some entries) (hpath : NoLonePath key raw) :
    Agree (Program.required key raw) (part tree base vector key raw) := by
  cases hv : Value.lookup key entries with
  | some v =>
    rw [required_of_lookup h hv, part_of_lookup tree base vector h hv]
    exact .ok v
  | none =>
    have hnone : (Value.lookup (pathKey key) entries).isSome = false := by
      rw [Bool.eq_false_iff]
      intro hsome
      have hkey := hpath entries h hsome
      rw [hv] at hkey
      cases hkey
    have hrequired : Program.required key raw = .error (.problem (.missingField key)) := by
      rw [Program.required, h]
      simp only [hv]
    have hpart : part tree base vector key raw = .error (.problem (.missingSource key)) := by
      rw [part, mentions_eq h, mentions_eq h, hv, hnone]
      rfl
    rw [hrequired, hpart]
    exact .error (.missing key)

end Mappings

/-! ## Payloads -/

/-- A payload that is a mapping, whose constraints are a mapping too unless they count as
    absent, and that gives its parts in place if at all. -/
structure InPlace (payload : Value) : Prop where
  mapping : ∃ entries, payload.entries? = some entries
  constraints : ∀ v, payload.field? "constraints" = .ok (some v) → v.truthy = true →
    ∃ entries, v.entries? = some entries
  objective_path : NoLonePath "objective" payload
  coefficients_path : ∀ v, payload.field? "constraints" = .ok (some v) →
    NoLonePath "coefficients" v
  bounds_path : ∀ v, payload.field? "constraints" = .ok (some v) → NoLonePath "bounds" v

theorem noLonePath_empty (key : String) : NoLonePath key (.map []) := by
  rintro _ ⟨⟩ h
  cases h

/-- The constraints of a payload are always a mapping. -/
theorem InPlace.constraintsOf {payload : Value} (h : InPlace payload) :
    ∃ constraints entries, Program.constraintsOf payload = .ok constraints ∧
      constraints.entries? = some entries ∧ NoLonePath "coefficients" constraints ∧
      NoLonePath "bounds" constraints := by
  obtain ⟨entries, hentries⟩ := h.mapping
  have hfield := Value.field?_eq hentries "constraints"
  rw [Program.constraintsOf, hfield]
  cases hv : Value.lookup "constraints" entries with
  | none => exact ⟨.map [], [], rfl, rfl, noLonePath_empty _, noLonePath_empty _⟩
  | some v =>
    rw [hv] at hfield
    cases htruthy : v.truthy with
    | false =>
      refine ⟨.map [], [], ?_, rfl, noLonePath_empty _, noLonePath_empty _⟩
      show (Except.ok (if v.truthy then v else .map []) : Except Fault Value) = _
      rw [htruthy]
      rfl
    | true =>
      obtain ⟨inner, hinner⟩ := h.constraints v hfield htruthy
      refine ⟨v, inner, ?_, hinner, h.coefficients_path v hfield, h.bounds_path v hfield⟩
      show (Except.ok (if v.truthy then v else .map []) : Except Fault Value) = _
      rw [htruthy]
      rfl

/-- **Both ways of reading a payload agree.** On a payload whose parts stand in place, reading it
    on its own and reading it as a section of a configuration yield the same program or fail with
    errors of one class, whatever files there are and wherever paths are looked up from. -/
theorem loaders_agree {payload : Value} (h : InPlace payload) (tree : FileTree) (base : Path) :
    (∃ p, Program.ofPayload payload = .ok p ∧ Config.programOf tree base payload = .ok p) ∨
      ∃ e e', Program.ofPayload payload = .error e ∧
        Config.programOf tree base payload = .error e' ∧ e.SameClass e' := by
  obtain ⟨entries, hentries⟩ := h.mapping
  obtain ⟨constraints, inner, hconstraints, hinner, hcoefficients, hbounds⟩ := h.constraintsOf
  apply Agree.ok_or_error
  rw [Program.ofPayload, Config.programOf, hconstraints]
  show Agree (Program.required "objective" payload >>= _)
    (Config.part tree base true "objective" payload >>= _)
  refine (agree_part tree base true hentries h.objective_path).bind fun objective => ?_
  refine (agree_part tree base false hinner hcoefficients).bind fun coefficients => ?_
  refine (agree_part tree base true hinner hbounds).bind fun bounds => ?_
  -- from here on both read the same lists
  exact .refl _

/-- A payload with a path beside the part that it is for, and without bounds. -/
def boundless : Value :=
  .map [
    (.text "objective", .list [.int 1]),
    (.text "objective_path", .text "costs.csv"),
    (.text "constraints", .map [(.text "coefficients", .list [.list [.int 1]])])]

theorem loaders_agree_boundless :
    InPlace boundless ∧
      ∃ e, Program.ofPayload boundless = .error (.problem (.missingField "bounds")) ∧
        Config.programOf .empty ⟨1, []⟩ boundless = .error e ∧
        Error.SameClass (.problem (.missingField "bounds")) e := by
  have hinplace : InPlace boundless := by
    refine ⟨⟨_, rfl⟩, ?_, ?_, ?_, ?_⟩
    · rintro _ ⟨⟩ _
      exact ⟨_, rfl⟩
    · rintro _ ⟨⟩ _
      rfl
    · rintro _ ⟨⟩ _ ⟨⟩ h
      cases h
    · rintro _ ⟨⟩ _ ⟨⟩ h
      cases h
  have hmissing : Program.ofPayload boundless = .error (.problem (.missingField "bounds")) := rfl
  rcases loaders_agree hinplace .empty ⟨1, []⟩ with ⟨p, hp, _⟩ | ⟨e, e', he, he', hclass⟩
  · rw [hmissing] at hp
    cases hp
  · rw [hmissing] at he
    cases he
    exact ⟨hinplace, e', hmissing, he', hclass⟩

end ProductionLP
