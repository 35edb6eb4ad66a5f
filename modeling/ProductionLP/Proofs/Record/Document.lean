import ProductionLP.Proofs.Decimal.Shortest
import ProductionLP.Proofs.Replay
import ProductionLP.Record.Files

/- Solution files as JSON.

   A record with one item per line is a JSON document exactly when every number in it is finite
   (`isDocument_indented_iff`):

   1. a text is written as a string, whatever its characters are, and an integer or a finite
      double as a number, so the grammar is followed item by item (`derives_indented`);
   2. the name of a number that is not finite begins with a capital letter that stands outside of
      every string, and no document has such a letter there (`shows_indented`).

   A solution file holds the objective, the values and the elements of the pivots. An unbounded
   program has an infinite objective, so its file is never a document; any other solution has one
   exactly when these numbers are finite (`solutionText_isDocument_iff`). -/
namespace ProductionLP.Record

open Json Decimal
open Text (CodePoint)

mutual

/-- The numbers that occur in a record. -/
def numbers : Record → List Float
  | .null => []
  | .bool _ => []
  | .int _ => []
  | .num x => [x]
  | .text _ => []
  | .list items => numbersOfItems items
  | .object entries => numbersOfEntries entries

/-- The numbers that occur in the items of a list. -/
def numbersOfItems : List Record → List Float
  | [] => []
  | r :: rest => numbers r ++ numbersOfItems rest

/-- The numbers that occur in the entries of an object. -/
def numbersOfEntries : List (List CodePoint × Record) → List Float
  | [] => []
  | (_, r) :: rest => numbers r ++ numbersOfEntries rest

end

variable {depth n : Nat} {s t : List Char} {xs ys : List Float} {x : Float}

/-! ## Texts and numbers -/

theorem isHexDigit_digitChar : ∀ d < 16, IsHexDigit (Text.digitChar d) := by decide

theorem isUnit_escapedUnit (h : n < 0x10000) : IsUnit (escapedUnit n) := by
  refine .code (Text.length_hex (by decide) h) fun c hc => ?_
  obtain ⟨d, hd, rfl⟩ := Text.exists_of_mem_hex hc
  exact isHexDigit_digitChar d hd

/-- The characters of printable ASCII but for the quote and the backslash stand for themselves. -/
theorem isUnit_char (h : 0x20 ≤ n ∧ n < 0x7F) (hquote : n ≠ 0x22) (hbackslash : n ≠ 0x5C) :
    IsUnit [Char.ofNat n] := by
  have hn : (Char.ofNat n).toNat = n := Text.toNat_ofNat_of_lt (by omega)
  refine .char (by omega) ?_ ?_
  · intro hc
    exact hquote (by rw [← hn, hc]; rfl)
  · intro hc
    exact hbackslash (by rw [← hn, hc]; rfl)

/-- A code point is written as one unit or two. -/
theorem isInside_escaped (code : CodePoint) : IsInside (escaped code) := by
  have hcode := code.isLt
  unfold escaped
  dsimp only
  iterate 7
    split
    · exact (IsUnit.short (by decide)).isInside
  split
  · next hquote hbackslash _ _ _ _ _ h => exact (isUnit_char h hquote hbackslash).isInside
  split
  · next h => exact (isUnit_escapedUnit h).isInside
  · exact (isUnit_escapedUnit (by omega)).isInside.append
      (isUnit_escapedUnit (by omega)).isInside

theorem isString_textForm (codes : List CodePoint) : IsString (textForm codes) := by
  refine .intro ?_
  induction codes with
  | nil => exact .nil
  | cons code codes ih => exact (isInside_escaped code).append ih

theorem isNumber_numberText (h : IsFinite x) : IsNumber (numberText x) := by
  obtain ⟨b, hb⟩ := h
  simp only [numberText, hb]
  exact isNumber_shortest ⟨b, hb⟩

theorem blank_newLine (depth : Nat) : Blank (newLine depth) :=
  List.forall_mem_cons.2 ⟨by decide, fun _ hc => .inl (List.eq_of_mem_replicate hc)⟩

/-! ## Finite records -/

mutual

/-- A record without special numbers is a value. -/
theorem derives_indented :
    ∀ (depth : Nat) (r : Record), (∀ x ∈ r.numbers, IsFinite x) → Derives .value (r.indented depth)
  | _, .null, _ => .null
  | _, .bool b, _ => .bool b
  | _, .int i, _ => .number (isNumber_integer i)
  | _, .num _, h => .number (isNumber_numberText (h _ (List.mem_singleton.2 rfl)))
  | _, .text s, _ => .string (isString_textForm s)
  | _, .list [], _ => .emptyArray blank_nil
  | depth, .list (r :: rest), h => by
    obtain ⟨hr, hrest⟩ := List.forall_mem_append.1 h
    have hitems := derives_indentedItems depth rest hrest (derives_indented (depth + 1) r hr)
    simpa [indented] using Derives.array hitems
  | _, .object [], _ => .emptyObject blank_nil
  | depth, .object ((k, r) :: rest), h => by
    obtain ⟨hr, hrest⟩ := List.forall_mem_append.1 h
    have hentries := derives_indentedEntries depth rest hrest (isString_textForm k)
      (derives_indented (depth + 1) r hr)
    simpa [indented] using Derives.object hentries

/-- A first item and those behind it, up to the bracket that closes the list. -/
theorem derives_indentedItems :
    ∀ (depth : Nat) (rest : List Record), (∀ x ∈ numbersOfItems rest, IsFinite x) →
      ∀ {s : List Char}, Derives .value s → Derives .elements
        (newLine (depth + 1) ++ s ++ indentedItems (depth + 1) rest ++ newLine depth)
  | depth, [], _, _, hs => by
    -- the line break before the bracket belongs to the last element
    simpa [indentedItems] using
      Derives.lastElement (.element (blank_newLine (depth + 1)) hs (blank_newLine depth))
  | depth, r :: rest, h, _, hs => by
    obtain ⟨hr, hrest⟩ := List.forall_mem_append.1 h
    have hitems := derives_indentedItems depth rest hrest (derives_indented (depth + 1) r hr)
    simpa [indentedItems] using
      Derives.elements (.element (blank_newLine (depth + 1)) hs blank_nil) hitems

/-- A first entry and those behind it, up to the bracket that closes the object. -/
theorem derives_indentedEntries :
    ∀ (depth : Nat) (rest : List (List CodePoint × Record)), (∀ x ∈ numbersOfEntries rest, IsFinite x) →
      ∀ {k s : List Char}, IsString k → Derives .value s → Derives .members
        (newLine (depth + 1) ++ k ++ ':' :: ' ' :: s ++ indentedEntries (depth + 1) rest
          ++ newLine depth)
  | depth, [], _, _, _, hk, hs => by
    simpa [indentedEntries] using
      Derives.lastMember (.member (blank_newLine (depth + 1)) hk blank_nil
        (.element blank_space hs (blank_newLine depth)))
  | depth, (k, r) :: rest, h, _, _, hk, hs => by
    obtain ⟨hr, hrest⟩ := List.forall_mem_append.1 h
    have hentries := derives_indentedEntries depth rest hrest (isString_textForm k)
      (derives_indented (depth + 1) r hr)
    simpa [indentedEntries] using
      Derives.members (.member (blank_newLine (depth + 1)) hk blank_nil
        (.element blank_space hs blank_nil)) hentries

end

/-! ## Special numbers -/

/-- The strings of a text are closed, and a special number among `xs` is seen outside of them. -/
structure Shows (s : List Char) (xs : List Float) : Prop where
  closed : IsClosed s
  finite : IsQuiet s → ∀ x ∈ xs, IsFinite x

namespace Shows

theorem of_calm (h : Calm s) : Shows s [] := ⟨h.closed, fun _ => List.forall_mem_nil _⟩

theorem append (hs : Shows s xs) (ht : Shows t ys) : Shows (s ++ t) (xs ++ ys) := by
  refine ⟨hs.closed.append ht.closed, fun hquiet => ?_⟩
  obtain ⟨hquiets, hquiett⟩ := hs.closed.isQuiet_append_iff.1 hquiet
  exact List.forall_mem_append.2 ⟨hs.finite hquiets, ht.finite hquiett⟩

/-- A text without special numbers in front. -/
theorem before (hs : Calm s) (ht : Shows t xs) : Shows (s ++ t) xs := (of_calm hs).append ht

/-- A text without special numbers behind. -/
theorem behind (hs : Shows s xs) (ht : Calm t) : Shows (s ++ t) xs := by
  simpa using hs.append (of_calm ht)

end Shows

/-- The name of a number that is not finite is seen. -/
theorem shows_numberText (x : Float) : Shows (numberText x) [x] := by
  by_cases hfinite : IsFinite x
  · have hcalm := (isNumber_numberText hfinite).calm
    exact ⟨hcalm.closed, fun _ => List.forall_mem_singleton.2 hfinite⟩
  · have hname : IsClosed (numberText x) ∧ ¬ IsQuiet (numberText x) := by
      unfold numberText
      split
      · decide
      · split <;> decide
      · next b hb => exact absurd ⟨b, hb⟩ hfinite
    exact ⟨hname.1, fun hquiet => absurd hquiet hname.2⟩

theorem calm_newLine (depth : Nat) : Calm (newLine depth) := (blank_newLine depth).calm

/-- A key and the text behind it. -/
theorem shows_entry (k : List CodePoint) (h : Shows s xs) : Shows (textForm k ++ ':' :: ' ' :: s) xs :=
  .before (isString_textForm k).calm (.before (s := [':', ' ']) (calm_of_all (by decide)) h)

mutual

/-- A record shows the special numbers in it. -/
theorem shows_indented : ∀ (depth : Nat) (r : Record), Shows (r.indented depth) r.numbers
  | _, .null => .of_calm Derives.null.calm
  | _, .bool b => .of_calm (Derives.bool b).calm
  | _, .int i => .of_calm (isNumber_integer i).calm
  | _, .num x => shows_numberText x
  | _, .text s => .of_calm (isString_textForm s).calm
  | _, .list [] => .of_calm (Derives.emptyArray blank_nil).calm
  | depth, .list (r :: rest) => by
    have hitems := (shows_indented (depth + 1) r).append (shows_indentedItems (depth + 1) rest)
    have hends : Calm (newLine depth ++ [']']) :=
      (calm_newLine depth).append (calm_of_all (by decide))
    have hlist := Shows.before ((calm_newLine (depth + 1)).cons (c := '[') (by decide))
      (hitems.behind hends)
    simpa [indented, numbers, numbersOfItems] using hlist
  | _, .object [] => .of_calm (Derives.emptyObject blank_nil).calm
  | depth, .object ((k, r) :: rest) => by
    have hentries :=
      (shows_entry k (shows_indented (depth + 1) r)).append (shows_indentedEntries (depth + 1) rest)
    have hends : Calm (newLine depth ++ ['\x7d']) :=
      (calm_newLine depth).append (calm_of_all (by decide))
    have hobject := Shows.before ((calm_newLine (depth + 1)).cons (c := '\x7b') (by decide))
      (hentries.behind hends)
    simpa [indented, numbers, numbersOfEntries] using hobject

theorem shows_indentedItems : ∀ (depth : Nat) (items : List Record),
    Shows (indentedItems depth items) (numbersOfItems items)
  | _, [] => .of_calm blank_nil.calm
  | depth, r :: rest => by
    have hitems := Shows.before ((calm_newLine depth).cons (c := ',') (by decide))
      ((shows_indented depth r).append (shows_indentedItems depth rest))
    simpa [indentedItems, numbersOfItems] using hitems

theorem shows_indentedEntries : ∀ (depth : Nat) (entries : List (List CodePoint × Record)),
    Shows (indentedEntries depth entries) (numbersOfEntries entries)
  | _, [] => .of_calm blank_nil.calm
  | depth, (k, r) :: rest => by
    have hentries := Shows.before ((calm_newLine depth).cons (c := ',') (by decide))
      ((shows_entry k (shows_indented depth r)).append (shows_indentedEntries depth rest))
    simpa [indentedEntries, numbersOfEntries] using hentries

end

/-- **A record is written as a JSON document exactly when its numbers are finite.** -/
theorem isDocument_indented_iff (r : Record) :
    IsDocument (r.indented 0) ↔ ∀ x ∈ r.numbers, IsFinite x := by
  rw [IsDocument]
  constructor
  · intro h
    exact (shows_indented 0 r).finite h.calm.quiet
  · intro h
    simpa using Derives.element blank_nil (derives_indented 0 r h) blank_nil

/-! ## Solution files -/

theorem numbersOfItems_map (vs : List Float) : numbersOfItems (vs.map .num) = vs := by
  induction vs with
  | nil => rfl
  | cons v vs ih => exact congrArg (v :: ·) ih

theorem numbersOfItems_map_ofStep (steps : List (PivotStep Float)) :
    numbersOfItems (steps.map ofStep) = steps.map (·.element) := by
  induction steps with
  | nil => rfl
  | cons step steps ih => exact congrArg (step.element :: ·) ih

/-- The numbers of a solution file. -/
theorem numbers_ofSolution (sol : Solution Float) :
    (ofSolution sol).numbers =
      sol.values ++ sol.objective.toFloat :: sol.pivots.map (·.element) := by
  simp [ofSolution, field, numbers, numbersOfEntries, numbersOfItems_map,
    numbersOfItems_map_ofStep]

/-- An objective is finite as a double when it has a limit and this is finite. -/
theorem isFinite_toFloat_iff (o : Objective Float) :
    IsFinite o.toFloat ↔ ∃ z, o = .value z ∧ IsFinite z := by
  cases o with
  | value z => simp [Objective.toFloat]
  | unlimited =>
    have hinfinite : ¬ IsFinite (Objective.toFloat .unlimited) := by decide +kernel
    simp [hinfinite]

/-- The file of any solution. -/
theorem isDocument_solutionText (sol : Solution Float) :
    IsDocument (solutionText sol) ↔
      (∃ z, sol.objective = .value z ∧ IsFinite z) ∧ (∀ v ∈ sol.values, IsFinite v) ∧
        ∀ step ∈ sol.pivots, IsFinite step.element := by
  rw [solutionText, isDocument_indented_iff, numbers_ofSolution, List.forall_mem_append,
    List.forall_mem_cons, List.forall_mem_map, isFinite_toFloat_iff]
  exact and_left_comm

/-- **The file of a solution is a JSON document exactly when the program is not found unbounded
    and the numbers that the run ends with are finite.** An unbounded program has an infinite
    objective, which no number of JSON stands for. -/
theorem isDocument_solutionText_iff {s : Settings Float} {p : Program Float}
    {sol : Solution Float} (hsolve : solve s p = .ok sol) :
    IsDocument (solutionText sol) ↔
      sol.status ≠ .unbounded ∧ (∀ z, sol.objective = .value z → IsFinite z) ∧
        (∀ v ∈ sol.values, IsFinite v) ∧ ∀ step ∈ sol.pivots, IsFinite step.element := by
  rw [isDocument_solutionText, Ne, ← objective_of_solve hsolve]
  cases sol.objective with
  | value z => simp
  | unlimited => simp

/-- The file of the sample program is a document. -/
theorem isDocument_solutionText_iff_sample : ∃ sol,
    solve Settings.standard Program.sample = .ok sol ∧ IsDocument (solutionText sol) := by
  obtain ⟨sol, hsolve, hstatus, hobjective, hrest⟩ : ∃ sol,
      solve Settings.standard Program.sample = .ok sol ∧ sol.status ≠ .unbounded ∧
        IsFinite sol.objective.toFloat ∧ (∀ v ∈ sol.values, IsFinite v) ∧
          ∀ step ∈ sol.pivots, IsFinite step.element :=
    exists_of_mem_toOption (by decide +kernel)
  refine ⟨sol, hsolve, (isDocument_solutionText_iff hsolve).2 ⟨hstatus, fun z hz => ?_, hrest⟩⟩
  rwa [hz] at hobjective

/-- A product that pays and needs nothing. -/
def free : Program Float :=
  ⟨1, 1, .vector [1], .matrix [[0]] 1 (by simp), .vector [5], [.atMost]⟩

/-- The file of `free`. -/
def freeLines : List String := [
  "\x7b",
  "  \"status\": \"unbounded\",",
  "  \"values\": [",
  "    0.0",
  "  ],",
  "  \"objective\": Infinity,",
  "  \"iterations\": 1,",
  "  \"pivots\": []",
  "\x7d"]

/-- A product that pays so much that the best plan is worth more than the greatest double. -/
def dear : Program Float :=
  ⟨1, 1, .vector [1e308], .matrix [[1]] 1 (by simp), .vector [10], [.atMost]⟩

/-- Two valid programs whose files are no documents: the one is unbounded, the other has a best
    plan of infinite worth. -/
theorem not_isDocument_free :
    (free.validate = .ok () ∧ ∃ sol, solve Settings.standard free = .ok sol ∧
      solutionText sol = ("\n".intercalate freeLines).toList ∧
      ¬ IsDocument (solutionText sol)) ∧
    dear.validate = .ok () ∧ ∃ sol, solve Settings.standard dear = .ok sol ∧
      sol.status = .optimal ∧ ¬ IsDocument (solutionText sol) := by
  have hnone : ∀ {sol : Solution Float}, ¬ IsFinite sol.objective.toFloat →
      ¬ IsDocument (solutionText sol) := fun h hdocument =>
    h ((isFinite_toFloat_iff _).2 ((isDocument_solutionText _).1 hdocument).1)
  refine ⟨⟨by decide +kernel, ?_⟩, by decide +kernel, ?_⟩
  · obtain ⟨sol, hsolve, htext, hobjective⟩ : ∃ sol, solve Settings.standard free = .ok sol ∧
        solutionText sol = ("\n".intercalate freeLines).toList ∧
        ¬ IsFinite sol.objective.toFloat :=
      exists_of_mem_toOption (by decide +kernel)
    exact ⟨sol, hsolve, htext, hnone hobjective⟩
  · obtain ⟨sol, hsolve, hstatus, hobjective⟩ : ∃ sol, solve Settings.standard dear = .ok sol ∧
        sol.status = .optimal ∧ ¬ IsFinite sol.objective.toFloat :=
      exists_of_mem_toOption (by decide +kernel)
    exact ⟨sol, hsolve, hstatus, hnone hobjective⟩

end ProductionLP.Record
