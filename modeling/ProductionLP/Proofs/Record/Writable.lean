import ProductionLP.Proofs.Fallible
import ProductionLP.Record.Files

/- Values with a record.

   Whether a value has a record is seen on its parts, without writing any of them: no set, no
   octets, no date and no collection that contains itself occurs in it, every key of a mapping is
   a scalar, no integer has too many digits (`isRecordable`), and it is not nested deeper than
   can be followed (`depth`). There is nothing else that can go wrong (`exists_ofValue_iff`). -/
namespace ProductionLP

namespace Record

/-- Whether a value can be the key of an object. -/
def isKey : Value → Bool
  | .int i => isWritten i
  | .text _ => true
  | .num _ => true
  | .bool _ => true
  | .null => true
  | _ => false

mutual

/-- Whether every part of a value is of a kind that has a record. -/
def isRecordable : Value → Bool
  | .null => true
  | .bool _ => true
  | .int i => isWritten i
  | .num _ => true
  | .text _ => true
  | .block _ => true
  | .list items => allRecordable items
  | .tuple items => allRecordable items
  | .map entries => allRecordableEntries entries
  | .knot _ v => isRecordable v
  | _ => false

/-- Whether all items of a list have records. -/
def allRecordable : List Value → Bool
  | [] => true
  | v :: rest => isRecordable v && allRecordable rest

/-- Whether all entries of a mapping have keys and records. -/
def allRecordableEntries : List (Value × Value) → Bool
  | [] => true
  | (k, v) :: rest => isKey k && (isRecordable v && allRecordableEntries rest)

end

mutual

/-- The levels that it takes to follow a value. -/
def depth : Value → Nat
  | .list items => depthOfItems items + 1
  | .tuple items => depthOfItems items + 1
  | .map entries => depthOfEntries entries + 1
  | .block b => max conversionLevels (depthOfShape b.shape + 1)
  | .knot _ v => depth v
  | _ => 0

/-- The levels that it takes to follow the items of a list. -/
def depthOfItems : List Value → Nat
  | [] => 0
  | v :: rest => max (depth v) (depthOfItems rest)

/-- The levels that it takes to follow the values of a mapping. -/
def depthOfEntries : List (Value × Value) → Nat
  | [] => 0
  | (_, v) :: rest => max (depth v) (depthOfEntries rest)

end

/-- A value that is written as a line of a trace file. -/
def IsWritable (reading : Reading) (v : Value) : Prop :=
  isRecordable v = true ∧ depth v ≤ reading.levels

instance (reading : Reading) : DecidablePred (IsWritable reading) :=
  fun _ => inferInstanceAs (Decidable (_ ∧ _))

variable {codes : String → List Text.CodePoint} {levels needed : Nat} {β : Type}

theorem exists_writable_iff {i : Int} : (∃ j, writable i = .ok j) ↔ isWritten i = true := by
  cases h : isWritten i <;> simp [writable, h]

theorem exists_keyOf_iff {k : Value} : (∃ key, keyOf codes k = .ok key) ↔ isKey k = true := by
  cases k with
  | int i => exact exists_map_eq_ok_iff.trans exists_writable_iff
  | _ => simp [keyOf, isKey]

/-- A collection takes one level more than what is inside of it. -/
theorem exists_enter_iff {f : Nat → Except Error β} {P : Prop}
    (h : ∀ left, (∃ r, f left = .ok r) ↔ P ∧ needed ≤ left) :
    (∃ r, (enter levels >>= f) = .ok r) ↔ P ∧ needed + 1 ≤ levels := by
  cases levels with
  | zero =>
    constructor
    · rintro ⟨r, hr⟩
      cases hr
    · rintro ⟨_, hle⟩
      exact absurd hle (Nat.not_succ_le_zero _)
  | succ left => exact (h left).trans (and_congr_right' Nat.succ_le_succ_iff.symm)

theorem exists_ofBlock_iff {b : Block Float} :
    (∃ r, ofBlock levels b = .ok r) ↔ max conversionLevels (depthOfShape b.shape + 1) ≤ levels := by
  rw [ofBlock, Nat.max_le]
  split
  · next h =>
    refine ⟨?_, fun hle => by omega⟩
    rintro ⟨r, hr⟩
    cases hr
  · next h => exact ⟨fun _ => by omega, fun _ => ⟨_, rfl⟩⟩

theorem refuse_ne_ok {kind : String} {r : Record} : refuse levels kind ≠ .ok r := by
  unfold refuse
  split <;> exact nofun

mutual

/-- **What has a record.** -/
theorem exists_ofValue_iff : ∀ (levels : Nat) (v : Value),
    (∃ r, ofValue codes levels v = .ok r) ↔ isRecordable v = true ∧ depth v ≤ levels
  | _, .null => by simp [ofValue, isRecordable, depth]
  | _, .bool _ => by simp [ofValue, isRecordable, depth]
  | _, .num _ => by simp [ofValue, isRecordable, depth]
  | _, .text _ => by simp [ofValue, isRecordable, depth]
  | levels, .int i => by
    have hdepth : depth (.int i) ≤ levels := Nat.zero_le _
    exact (exists_map_eq_ok_iff.trans exists_writable_iff).trans (and_iff_left hdepth).symm
  | _, .list items => exists_enter_iff fun left =>
    exists_map_eq_ok_iff.trans (exists_ofItems_iff left items)
  | _, .tuple items => exists_enter_iff fun left =>
    exists_map_eq_ok_iff.trans (exists_ofItems_iff left items)
  | _, .map entries => exists_enter_iff fun left =>
    exists_map_eq_ok_iff.trans (exists_ofEntries_iff left entries)
  | _, .block _ => exists_ofBlock_iff.trans (and_iff_right rfl).symm
  | levels, .knot _ v => exists_ofValue_iff levels v
  | _, .set _ => by simp [ofValue, isRecordable, refuse_ne_ok]
  | _, .octets _ => by simp [ofValue, isRecordable, refuse_ne_ok]
  | _, .date _ => by simp [ofValue, isRecordable, refuse_ne_ok]
  | _, .stamp _ => by simp [ofValue, isRecordable, refuse_ne_ok]
  | levels, .back number => by
    refine ⟨fun ⟨r, hr⟩ => ?_, fun h => nomatch h.1⟩
    obtain ⟨_, _, hr⟩ := exists_of_bind_eq_ok hr
    cases hr

theorem exists_ofItems_iff : ∀ (levels : Nat) (items : List Value),
    (∃ rs, ofItems codes levels items = .ok rs) ↔
      allRecordable items = true ∧ depthOfItems items ≤ levels
  | _, [] => by simp [ofItems, allRecordable, depthOfItems]
  | levels, v :: rest => by
    have hrest := exists_ofItems_iff levels rest
    rw [ofItems, exists_bind_eq_ok_iff fun _ => exists_map_eq_ok_iff.trans hrest,
      exists_ofValue_iff levels v, allRecordable, Bool.and_eq_true, depthOfItems, Nat.max_le]
    exact and_and_and_comm

theorem exists_ofEntries_iff : ∀ (levels : Nat) (entries : List (Value × Value)),
    (∃ rs, ofEntries codes levels entries = .ok rs) ↔
      allRecordableEntries entries = true ∧ depthOfEntries entries ≤ levels
  | _, [] => by simp [ofEntries, allRecordableEntries, depthOfEntries]
  | levels, (k, v) :: rest => by
    have hrest := exists_ofEntries_iff levels rest
    have hvalue := fun key : List Text.CodePoint =>
      @exists_bind_eq_ok_iff _ _ _ (ofValue codes levels v)
        (fun r => ofEntries codes levels rest >>= fun rs => pure ((key, r) :: rs)) _
        fun _ => exists_map_eq_ok_iff.trans hrest
    rw [ofEntries, exists_bind_eq_ok_iff hvalue, exists_keyOf_iff, exists_ofValue_iff levels v,
      allRecordableEntries, Bool.and_eq_true, Bool.and_eq_true, depthOfEntries, Nat.max_le]
    exact (and_congr_right' and_and_and_comm).trans and_assoc.symm

end

/-- The parts of a value decide whether it is written. -/
theorem isWritable_iff {reading : Reading} {v : Value} :
    IsWritable reading v ↔ ∃ r, reading.record v = .ok r :=
  (exists_ofValue_iff reading.levels v).symm

-- a matrix is two lists deep, and one level more is gone before it is turned into lists
example : IsWritable ⟨Text.codePoints, 3⟩ (.block ⟨[1, 1], [0], rfl⟩) ∧
    ¬ IsWritable ⟨Text.codePoints, 2⟩ (.block ⟨[1, 1], [0], rfl⟩) := by decide

end Record

end ProductionLP
