import ProductionLP.Fault
import ProductionLP.Value.Basic

/- Shown values.

   Inside a list or a mapping a value is written in its quoted form, so that a text differs
   from a number; a value shown on its own differs from its quoted form only when it is a
   text or a date. A collection is not written again inside itself: dots stand for it. Integers
   with very many digits are not written at all, nor are collections that are nested very deep. -/
namespace ProductionLP.Value

/-- Between brackets, separated by commas. -/
def bracketed (opening closing : String) (items : List String) : String :=
  opening ++ ", ".intercalate items ++ closing

/-- What stands for a collection inside itself. -/
def dots : Value → String
  | .map _ => "\x7b...\x7d"
  | .tuple _ => "(...)"
  | _ => "[...]"

mutual

/-- The quoted form of a value inside the given knots, each with what stands for it. -/
def quotedIn (around : List (Nat × String)) : Value → String
  | .null => "None"
  | .bool b => boolText b
  | .int i => intText i
  | .num x => numText x
  | .text s => Text.quotedString s
  | .octets bytes => String.ofList (Text.quotedOctets bytes)
  | .date d => d.quoted
  | .stamp q => q
  | .list items => bracketed "[" "]" (quotedItems around items)
  | .tuple [v] => "(" ++ quotedIn around v ++ ",)"
  | .tuple items => bracketed "(" ")" (quotedItems around items)
  | .map entries => bracketed "\x7b" "\x7d" (quotedEntries around entries)
  | .set [] => "set()"
  | .set items => bracketed "\x7b" "\x7d" (quotedItems around items)
  | .block b => "array(" ++ toString b.shape ++ ")"
  | .knot number v =>
    match around.lookup number with
    | some s => s
    | none => quotedIn ((number, dots v) :: around) v
  | .back number => (around.lookup number).getD "[...]"

/-- The quoted forms of the items of a list. -/
def quotedItems (around : List (Nat × String)) : List Value → List String
  | [] => []
  | v :: rest => quotedIn around v :: quotedItems around rest

/-- The quoted forms of the entries of a mapping. -/
def quotedEntries (around : List (Nat × String)) : List (Value × Value) → List String
  | [] => []
  | (k, v) :: rest =>
    (quotedIn around k ++ ": " ++ quotedIn around v) :: quotedEntries around rest

end

/-- The quoted form of a value. -/
def quoted (v : Value) : String := quotedIn [] v

/-- A value shown on its own. -/
def shown : Value → String
  | .text s => s
  | .date d => d.shown
  | v => quoted v

mutual

/-- Whether all integers of a value are written. -/
def isShowable : Value → Bool
  | .int i => isWritten i
  | .list items => allShowable items
  | .tuple items => allShowable items
  | .set items => allShowable items
  | .map entries => allShowableEntries entries
  | .knot _ v => isShowable v
  | _ => true

/-- Whether all integers of the items are written. -/
def allShowable : List Value → Bool
  | [] => true
  | v :: rest => isShowable v && allShowable rest

/-- Whether all integers of the entries are written. -/
def allShowableEntries : List (Value × Value) → Bool
  | [] => true
  | (k, v) :: rest => isShowable k && isShowable v && allShowableEntries rest

end

mutual

/-- How many collections are nested in a value. -/
def levels : Value → Nat
  | .list items => levelsItems items + 1
  | .tuple items => levelsItems items + 1
  | .set items => levelsItems items + 1
  | .map entries => levelsEntries entries + 1
  | .knot _ v => levels v
  | _ => 0

/-- How many collections are nested in the items. -/
def levelsItems : List Value → Nat
  | [] => 0
  | v :: rest => max (levels v) (levelsItems rest)

/-- How many collections are nested in the entries. -/
def levelsEntries : List (Value × Value) → Nat
  | [] => 0
  | (k, v) :: rest => max (max (levels k) (levels v)) (levelsEntries rest)

end

/-- The levels of nesting that are usually left to follow. -/
def usualLevels : Nat := 980

/-- What a value is written as, unless it holds an integer that is not written or is nested too
    deep to be followed. -/
def written (v : Value) (form : String) : Except Fault String :=
  if usualLevels < v.levels then .error .deepDocument
  else if v.isShowable then .ok form
  else .error .unshowable

/-- A value shown on its own, if it can be written. -/
def text? (v : Value) : Except Fault String := v.written v.shown

/-- The quoted form of a value that is no operator, if it can be written. Only one number can be
    told from an operator as a whole, no other array. -/
def quote? (v : Value) : Except Fault String :=
  match v with
  | .block b => if b.size = 1 then .ok v.quoted else .error .ambiguous
  | v => v.written v.quoted

end ProductionLP.Value
