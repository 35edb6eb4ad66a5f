/- Octets written in six bits.

   Four characters, each of six bits, stand for three octets. Characters that stand for no
   bits are passed over. Equals signs fill up the last four characters; what follows a group
   that they fill up is not read. A group without its fill is refused. -/
namespace ProductionLP.Text

/-- The six bits that a character stands for. -/
def sixBits? (c : Char) : Option Nat :=
  if 'A' ≤ c ∧ c ≤ 'Z' then some (c.toNat - 65)
  else if 'a' ≤ c ∧ c ≤ 'z' then some (c.toNat - 71)
  else if '0' ≤ c ∧ c ≤ '9' then some (c.toNat + 4)
  else if c = '+' then some 62
  else if c = '/' then some 63
  else none

/-- The octet that a character completes, if it completes one, and the bits that are left of
    it; `place` counts the characters of its group before it. -/
def joinBits (place left bits : Nat) : List UInt8 × Nat :=
  match place with
  | 0 => ([], bits)
  | 1 => ([(4 * left + bits / 16).toUInt8], bits % 16)
  | 2 => ([(16 * left + bits / 4).toUInt8], bits % 4)
  | _ => ([(64 * left + bits).toUInt8], 0)

/-- Reads on inside a group: `place` characters of it are read, `left` bits are left of them,
    and `fill` equals signs have come since the last of them. -/
def readSixBits (place left fill : Nat) : List Char → Option (List UInt8)
  | [] => if place = 0 then some [] else none
  | c :: rest =>
    if c = '=' then
      if place < 2 then readSixBits place left fill rest
      else if 4 ≤ place + fill + 1 then some []
      else readSixBits place left (fill + 1) rest
    else
      match sixBits? c with
      | none => readSixBits place left fill rest
      | some bits =>
        let (octets, left) := joinBits place left bits
        (readSixBits ((place + 1) % 4) left 0 rest).map (octets ++ ·)

/-- The octets that a text writes in six bits. -/
def octetsOfSixBits? (s : List Char) : Option (List UInt8) := readSixBits 0 0 0 s

end ProductionLP.Text
