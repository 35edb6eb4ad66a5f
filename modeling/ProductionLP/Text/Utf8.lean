import ProductionLP.Text.Digit

/- Text from octets.

   A text file is UTF-8. Decoding reads one character after the other and reports the
   first octets that no character starts with. A file that ends inside a character is
   noticed only when no more octets come, so its place is counted from that character. -/
namespace ProductionLP.Text

/-- Why octets are not UTF-8, with the first and the last offending place. -/
inductive Utf8Error where
  /-- No character starts with this octet. -/
  | start (octet place : Nat)
  /-- An octet that cannot follow; the character began at `first` with `octet`. -/
  | continuation (octet first last : Nat)
  /-- The octets end inside a character of which `count` octets are there. -/
  | truncated (octet count : Nat)
  deriving Repr, DecidableEq

/-- The places from `p` to `q` in words; a single place names its octet `b`. -/
def faultyPlaces (b p q : Nat) : String :=
  if p = q then
    "'utf-8' codec can't decode byte 0x" ++ String.ofList (hex 2 b) ++ " in position "
      ++ toString p ++ ": "
  else
    "'utf-8' codec can't decode bytes in position " ++ toString p ++ "-" ++ toString q ++ ": "

/-- The faulty places and the reason in words. -/
def Utf8Error.message : Utf8Error → String
  | .start b p => faultyPlaces b p p ++ "invalid start byte"
  | .continuation b p q => faultyPlaces b p q ++ "invalid continuation byte"
  | .truncated b n => faultyPlaces b 0 (n - 1) ++ "unexpected end of data"

/-- The number of octets that follow a first octet, the range of the second one, and the
    bits that the first one gives. -/
def leadOctet (b : Nat) : Option (Nat × Nat × Nat × Nat) :=
  if b < 0x80 then some (0, 0, 0, b)
  else if b < 0xC2 then none
  else if b < 0xE0 then some (1, 0x80, 0xBF, b - 0xC0)
  else if b = 0xE0 then some (2, 0xA0, 0xBF, 0)
  else if b = 0xED then some (2, 0x80, 0x9F, 0xD)
  else if b < 0xF0 then some (2, 0x80, 0xBF, b - 0xE0)
  else if b = 0xF0 then some (3, 0x90, 0xBF, 0)
  else if b < 0xF4 then some (3, 0x80, 0xBF, b - 0xF0)
  else if b = 0xF4 then some (3, 0x80, 0x8F, 4)
  else none

/-- Decodes octets from place `at_`; `owed` octets of the character that began with `lead`
    are still to come, the next one between `lo` and `hi`, and `code` holds the bits so far. -/
def decodeFrom (lead start owed lo hi code : Nat) : Nat → List UInt8 → Except Utf8Error (List Char)
  | at_, [] => if owed = 0 then .ok [] else .error (.truncated lead (at_ - start))
  | at_, b :: rest =>
    if owed = 0 then
      match leadOctet b.toNat with
      | none => .error (.start b.toNat at_)
      | some (0, _, _, c) => do
        return Char.ofNat c :: (← decodeFrom 0 0 0 0 0 0 (at_ + 1) rest)
      | some (n + 1, lo, hi, c) => decodeFrom b.toNat at_ (n + 1) lo hi c (at_ + 1) rest
    else if lo ≤ b.toNat ∧ b.toNat ≤ hi then
      let code := 64 * code + (b.toNat - 0x80)
      if owed = 1 then do
        return Char.ofNat code :: (← decodeFrom 0 0 0 0 0 0 (at_ + 1) rest)
      else decodeFrom lead start (owed - 1) 0x80 0xBF code (at_ + 1) rest
    else .error (.continuation lead start (at_ - 1))

/-- The characters of a UTF-8 file. -/
def decodeUtf8 (octets : List UInt8) : Except Utf8Error (List Char) :=
  decodeFrom 0 0 0 0 0 0 0 octets

/-- Every way of ending a line read as a line feed. -/
def unifyLineEnds : List Char → List Char
  | [] => []
  | '\r' :: '\n' :: rest => '\n' :: unifyLineEnds rest
  | '\r' :: rest => '\n' :: unifyLineEnds rest
  | c :: rest => c :: unifyLineEnds rest

end ProductionLP.Text
