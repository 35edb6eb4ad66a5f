import Mathlib.Data.List.Forall2
import ProductionLP.Proofs.Decimal.Shortest
import ProductionLP.Proofs.Record.Writable

/- Lines of a trace file.

   Every written form consists of printable ASCII, whatever the texts inside it hold: a code
   point that is not printable is written as an escape, and an escape is printable. So

   1. the record on one line is printable at every depth of nesting (`plain_line`), and the only
      newlines of a trace file are those behind the records;
   2. a record that can be written, which is seen on its parts (`isWritable_iff`), adds its line
      and leaves the rest to the other records (`IsTrace.cons`); a record that cannot be written
      adds nothing, not even the part of it that comes before the failure, and ends the writing
      (`IsTrace.stop`);
   3. so a file holds whole lines, one for each record before the first that cannot be written
      (`history_wholeLines`), whatever code points its texts stand for and however deep a record
      can be followed. -/
namespace ProductionLP

namespace Text

/-- Printable ASCII, a space included. -/
def IsPlain (c : Char) : Prop := 0x20 ≤ c.toNat ∧ c.toNat < 0x7F

/-- A text of printable ASCII. -/
def Plain (s : List Char) : Prop := ∀ c ∈ s, IsPlain c

instance : DecidablePred IsPlain := fun _ => inferInstanceAs (Decidable (_ ∧ _))

instance : DecidablePred Plain := fun s => List.decidableBAll IsPlain s

variable {s t : List Char} {c : Char}

@[simp] theorem plain_nil : Plain [] := List.forall_mem_nil _

@[simp] theorem plain_cons : Plain (c :: s) ↔ IsPlain c ∧ Plain s := List.forall_mem_cons

@[simp] theorem plain_append : Plain (s ++ t) ↔ Plain s ∧ Plain t := List.forall_mem_append

/-- A printable text is on one line. -/
theorem Plain.newline_notMem (h : Plain s) : '\n' ∉ s := fun hc => absurd (h _ hc) (by decide)

/-! ## Tokens -/

theorem isPlain_of_isNumeric (h : Json.IsNumeric c) : IsPlain c := by
  rcases h with h | rfl | rfl | rfl | rfl | rfl
  · have hrange : 48 ≤ c.toNat ∧ c.toNat ≤ 57 := by
      simpa [Char.isDigit, UInt32.le_iff_toNat_le] using h
    exact ⟨by omega, by omega⟩
  all_goals decide

theorem plain_of_isNumber (h : Json.IsNumber s) : Plain s := fun c hc =>
  isPlain_of_isNumeric (h.numeric c hc)

theorem isPlain_digitChar : ∀ d < 16, IsPlain (digitChar d) := by decide

theorem plain_hex (width n : Nat) : Plain (hex width n) := fun _ hc => by
  obtain ⟨d, hd, rfl⟩ := exists_of_mem_hex hc
  exact isPlain_digitChar d hd

end Text

namespace Record

open Text

/-! ## Records on one line -/

theorem plain_numberText (x : Float) : Plain (numberText x) := by
  unfold numberText
  split
  · decide
  · split <;> decide
  · next b hb => exact plain_of_isNumber (Decimal.isNumber_shortest ⟨b, hb⟩)

theorem plain_escapedUnit (n : Nat) : Plain (escapedUnit n) :=
  plain_cons.2 ⟨by decide, plain_cons.2 ⟨by decide, plain_hex 4 n⟩⟩

/-- A code point inside quotes is printable, whatever it stands for. -/
theorem plain_escaped (code : CodePoint) : Plain (escaped code) := by
  unfold escaped
  dsimp only
  iterate 7
    split
    · decide
  split
  · next h =>
    have hchar : IsPlain (Char.ofNat code.val) := by
      rwa [IsPlain, toNat_ofNat_of_lt (by omega)]
    exact plain_cons.2 ⟨hchar, plain_nil⟩
  split
  · exact plain_escapedUnit _
  · exact plain_append.2 ⟨plain_escapedUnit _, plain_escapedUnit _⟩

theorem plain_textForm (codes : List CodePoint) : Plain (textForm codes) := by
  refine plain_cons.2 ⟨by decide, plain_append.2 ⟨fun c hc => ?_, by decide⟩⟩
  obtain ⟨code, _, hc⟩ := List.mem_flatMap.1 hc
  exact plain_escaped code c hc

mutual

/-- A record on one line is printable. -/
theorem plain_line : ∀ r : Record, Plain r.line
  | .null => by decide
  | .bool true => by decide
  | .bool false => by decide
  | .int i => plain_of_isNumber (Decimal.isNumber_integer i)
  | .num x => plain_numberText x
  | .text s => plain_textForm s
  | .list items => by
    rw [line, plain_append, plain_cons]
    exact ⟨⟨by decide, plain_lineItems items⟩, by decide⟩
  | .object entries => by
    rw [line, plain_append, plain_cons]
    exact ⟨⟨by decide, plain_lineEntries entries⟩, by decide⟩

theorem plain_lineItems : ∀ items : List Record, Plain (lineItems items)
  | [] => plain_nil
  | [r] => plain_line r
  | r :: s :: rest => by
    rw [lineItems, plain_append, plain_cons, plain_cons]
    exacts [⟨plain_line r, by decide, by decide, plain_lineItems (s :: rest)⟩, List.cons_ne_nil _ _]

theorem plain_lineEntries : ∀ entries : List (List CodePoint × Record), Plain (lineEntries entries)
  | [] => plain_nil
  | [(k, r)] => by
    rw [lineEntries, plain_append, plain_cons, plain_cons]
    exact ⟨plain_textForm k, by decide, by decide, plain_line r⟩
  | (k, r) :: e :: rest => by
    rw [lineEntries, plain_append, plain_append, plain_cons, plain_cons, plain_cons, plain_cons]
    exacts [⟨⟨plain_textForm k, by decide, by decide, plain_line r⟩, by decide, by decide,
      plain_lineEntries (e :: rest)⟩, List.cons_ne_nil _ _]

end

/-! ## Traces -/

/-- The text that a list of lines makes up. -/
def wholeLines (lines : List (List Char)) : List Char := lines.flatMap (· ++ ['\n'])

/-- `k` of the records are on `lines`, one on each; `text` is what the file holds and `error` why
    the writing ended early. -/
structure IsTrace (reading : Reading) (vs : List Value) (k : Nat) (lines : List (List Char))
    (text : List Char) (error : Option Error) : Prop where
  le_length : k ≤ vs.length
  /-- No longer stretch of the first records can be written. -/
  longest : ∀ j ≤ vs.length, (∀ v ∈ vs.take j, IsWritable reading v) ↔ j ≤ k
  encodings : List.Forall₂ (fun v l => ∃ r, reading.record v = .ok r ∧ l = r.line)
    (vs.take k) lines
  plain : ∀ l ∈ lines, Plain l
  text_eq : text = wholeLines lines
  count_newline : text.count '\n' = k
  /-- The writing fails if and only if there are more records, and for the reason of the next. -/
  error_isSome : error.isSome ↔ k < vs.length
  error_eq : ∀ e, error = some e ↔ ∃ v, vs[k]? = some v ∧ reading.record v = .error e

variable {reading : Reading} {v : Value} {vs : List Value} {r : Record} {e : Error} {k : Nat}
  {lines : List (List Char)} {text : List Char} {error : Option Error}

theorem history_cons_ok (h : reading.record v = .ok r) :
    history (v :: vs) reading =
      (r.line ++ '\n' :: (history vs reading).1, (history vs reading).2) := by
  rw [history, closedLine, h]
  show (r.line ++ ['\n'] ++ (history vs reading).1, (history vs reading).2) = _
  rw [List.append_assoc, List.singleton_append]

theorem history_cons_error (h : reading.record v = .error e) :
    history (v :: vs) reading = ([], some e) := by
  rw [history, closedLine, h]
  rfl

theorem IsTrace.nil : IsTrace reading [] 0 [] [] none where
  le_length := Nat.le_refl 0
  longest := by simp
  encodings := .nil
  plain := by simp
  text_eq := rfl
  count_newline := rfl
  error_isSome := by simp
  error_eq := by simp

/-- A record that can be written adds its line. -/
theorem IsTrace.cons (hv : reading.record v = .ok r) (h : IsTrace reading vs k lines text error) :
    IsTrace reading (v :: vs) (k + 1) (r.line :: lines) (r.line ++ '\n' :: text) error where
  le_length := Nat.succ_le_succ h.le_length
  longest := by
    intro j hj
    cases j with
    | zero => simp
    | succ j =>
      rw [List.take_succ_cons, List.forall_mem_cons, h.longest j (Nat.le_of_succ_le_succ hj),
        Nat.succ_le_succ_iff]
      exact and_iff_right (isWritable_iff.2 ⟨r, hv⟩)
  encodings := .cons ⟨r, hv, rfl⟩ h.encodings
  plain := List.forall_mem_cons.2 ⟨plain_line r, h.plain⟩
  text_eq := by
    rw [h.text_eq, wholeLines, wholeLines, List.flatMap_cons, List.append_assoc,
      List.singleton_append]
  count_newline := by
    rw [List.count_append, List.count_eq_zero.2 (plain_line r).newline_notMem,
      List.count_cons_self, h.count_newline, Nat.zero_add]
  error_isSome := by rw [h.error_isSome, List.length_cons, Nat.succ_lt_succ_iff]
  error_eq := by simpa using h.error_eq

/-- A record that cannot be written ends the writing and adds nothing. -/
theorem IsTrace.stop (hv : reading.record v = .error e) :
    IsTrace reading (v :: vs) 0 [] [] (some e) where
  le_length := Nat.zero_le _
  longest := by
    intro j hj
    cases j with
    | zero => simp
    | succ j =>
      rw [List.take_succ_cons, List.forall_mem_cons]
      refine ⟨fun h => ?_, fun h => absurd h (Nat.not_succ_le_zero j)⟩
      obtain ⟨r, hr⟩ := isWritable_iff.1 h.1
      rw [hv] at hr
      cases hr
  encodings := .nil
  plain := by simp
  text_eq := rfl
  count_newline := rfl
  error_isSome := by simp
  error_eq := by simp [hv]

/-- **A trace file is a sequence of whole lines.** Whatever code points the texts stand for and
    however deep a value can be followed, the file holds the records before the first one that
    cannot be written, each on a line of printable ASCII, and nothing else; the writing fails
    exactly when there is such a record. -/
theorem history_wholeLines (vs : List Value) (reading : Reading) :
    ∃ k lines, IsTrace reading vs k lines (history vs reading).1 (history vs reading).2 := by
  induction vs with
  | nil => exact ⟨0, [], .nil⟩
  | cons v vs ih =>
    cases hv : reading.record v with
    | ok r =>
      obtain ⟨k, lines, h⟩ := ih
      rw [history_cons_ok hv]
      exact ⟨k + 1, r.line :: lines, h.cons hv⟩
    | error e =>
      rw [history_cons_error hv]
      exact ⟨0, [], .stop hv⟩

-- a set inside of the second record ends the writing
example : (history [.list [.text "ü\n"], .map [(.text "k", .set [])], .null]).1 =
    "[\"\\u00fc\\n\"]\n".toList := by decide +kernel

end Record

end ProductionLP
