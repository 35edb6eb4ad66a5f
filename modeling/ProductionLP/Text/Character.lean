/- Characters.

   White space, the space separators and what acts as such, is what trimming removes from a
   text. Capitals are needed for names that are matched in capitals: outside ASCII only the
   letters whose capitals are ASCII matter for a match, and every other character stays as it
   is.

   The code points from D800 to DFFF are no characters, yet a document can name one by an
   escape. A text that is read from a document keeps such a code as the character 0x100000
   places above it, which lies in the last private plane, so that it stays a list of
   characters; `codeOf` gives the code back. -/
namespace ProductionLP.Text

/-! White space. -/

/-- The blank characters as ranges of code points, in increasing order. -/
def blankRanges : List (Nat × Nat) := [
  (0x9, 0xD), (0x1C, 0x20), (0x85, 0x85), (0xA0, 0xA0), (0x1680, 0x1680), (0x2000, 0x200A),
  (0x2028, 0x2029), (0x202F, 0x202F), (0x205F, 0x205F), (0x3000, 0x3000)]

/-- A code point lies in one of the ranges. -/
def inRanges (ranges : List (Nat × Nat)) (n : Nat) : Bool :=
  ranges.any fun r => r.1 ≤ n && n ≤ r.2

/-- White space. -/
def isBlank (c : Char) : Bool := inRanges blankRanges c.toNat

/-- The text without white space at either end. -/
def trim (s : List Char) : List Char :=
  ((s.dropWhile isBlank).reverse.dropWhile isBlank).reverse

/-- Trimming as a function on strings. -/
def trimString (s : String) : String := String.ofList (trim s.toList)

/-! Capitals. -/

/-- The ASCII capitals of a character, when it has any; otherwise the character. -/
def capital (c : Char) : List Char :=
  if 'a' ≤ c ∧ c ≤ 'z' then [Char.ofNat (c.toNat - 32)]
  else match c.toNat with
    | 0xDF => ['S', 'S']
    | 0x131 => ['I']
    | 0x17F => ['S']
    | 0xFB00 => ['F', 'F']
    | 0xFB01 => ['F', 'I']
    | 0xFB02 => ['F', 'L']
    | 0xFB03 => ['F', 'F', 'I']
    | 0xFB04 => ['F', 'F', 'L']
    | 0xFB05 => ['S', 'T']
    | 0xFB06 => ['S', 'T']
    | _ => [c]

/-- A text in capitals. -/
def capitals (s : String) : String := String.ofList (s.toList.flatMap capital)

/-- The small letter of an ASCII capital; otherwise the character. -/
def small (c : Char) : Char :=
  if 'A' ≤ c ∧ c ≤ 'Z' then Char.ofNat (c.toNat + 32) else c

/-! Surrogates. -/

/-- A code point that is no character. -/
def isSurrogate (code : Nat) : Bool := 0xD800 ≤ code && code < 0xE000

/-- How far above a surrogate the character lies that stands for it. -/
def surrogateShift : Nat := 0x100000

/-- The character that stands for a code point. -/
def charOf (code : Nat) : Char :=
  Char.ofNat (if isSurrogate code then code + surrogateShift else code)

/-- The code point that a character stands for. -/
def codeOf (c : Char) : Nat :=
  if isSurrogate (c.toNat - surrogateShift) then c.toNat - surrogateShift else c.toNat

/-- A text that holds a surrogate. -/
def hasSurrogate (s : String) : Bool := s.toList.any fun c => codeOf c != c.toNat

/-- A code point, which need not be a character. -/
abbrev CodePoint : Type := Fin 0x110000

theorem codeOf_lt (c : Char) : codeOf c < 0x110000 := by
  have hvalid : c.toNat < 0x110000 := by
    rcases c.valid with h | ⟨_, h⟩
    · exact Nat.lt_trans h (by decide)
    · exact h
  unfold codeOf
  split
  · exact Nat.lt_of_le_of_lt (Nat.sub_le _ _) hvalid
  · exact hvalid

/-- The code points of a text. -/
def codePoints (s : String) : List CodePoint := s.toList.map fun c => ⟨codeOf c, codeOf_lt c⟩

end ProductionLP.Text
