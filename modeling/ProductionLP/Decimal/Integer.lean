import ProductionLP.Decimal.Read
import ProductionLP.Fault

/- Reading integers.

   An integer is written in a base between two and sixteen: blanks around it, an optional
   sign, the letter of its base behind a zero if the base has one, digits of any script and
   single underscores between digits. Decimal integers have a limit on their digits, which is
   looked at before what follows them. -/
namespace ProductionLP.Decimal

open Text (digitChar ofDigits small)

/-- The value of a digit, letters counting from ten. -/
def digitValue? (c : Char) : Option Nat :=
  let c := small c
  if '0' ≤ c ∧ c ≤ '9' then some (c.toNat - 48)
  else if 'a' ≤ c ∧ c ≤ 'z' then some (c.toNat - 87)
  else none

/-- The value of a digit of a base. -/
def digitIn? (base : Nat) (c : Char) : Option Nat := (digitValue? c).filter (· < base)

/-- The letter that announces a base behind a zero. -/
def baseLetter? (base : Nat) : Option Char :=
  if base = 2 then some 'b' else if base = 8 then some 'o' else if base = 16 then some 'x'
  else none

/-- The digits behind the announcement of their base and behind the underscore that may
    follow it. -/
def dropBaseLetter (base : Nat) (s : List Char) : List Char :=
  match s with
  | '0' :: letter :: rest =>
    if baseLetter? base = some (small letter) then
      match rest with
      | '_' :: rest => rest
      | rest => rest
    else s
  | s => s

/-- The leading digits of a base, single underscores between them dropped, and what follows;
    nothing when an underscore does not stand between digits. -/
def spanDigitsIn (base : Nat) : List Char → Option (List Nat × List Char)
  | [] => some ([], [])
  | '_' :: rest => some ([], '_' :: rest)
  | c :: rest =>
    match digitIn? base c with
    | none => some ([], c :: rest)
    | some d =>
      match rest with
      | '_' :: next :: more =>
        if (digitIn? base next).isSome then
          (spanDigitsIn base (next :: more)).map fun r => (d :: r.1, r.2)
        else none
      | ['_'] => none
      | rest => (spanDigitsIn base rest).map fun r => (d :: r.1, r.2)

/-- Decimal integers with more digits than this are not read. -/
def longestInteger : Nat := 4300

/-- The integer that a text writes in a base; `quoted` is how messages name the text. -/
def integerIn (base : Nat) (quoted : String) (s : List Char) : Except Fault Int :=
  let signed := takeSign (plainDigits (trimNumber s))
  match spanDigitsIn base (dropBaseLetter base signed.2) with
  | none => .error (.notInteger base quoted)
  | some (ds, rest) =>
    if base = 10 ∧ longestInteger < ds.length then .error (.manyDigits ds.length)
    else if ds.isEmpty || !rest.isEmpty then .error (.notInteger base quoted)
    else
      let n : Int := ofDigits base ds
      .ok (if signed.1 then -n else n)

end ProductionLP.Decimal
