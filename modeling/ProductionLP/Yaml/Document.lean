import ProductionLP.Value.Table
import ProductionLP.Yaml.Content

/- Documents.

   The value of a document is the value of its root. A collection that contains itself becomes
   a knot that carries its place in the table. -/
namespace ProductionLP.Yaml

/-- A value and the knots that it is inside of. -/
abbrev Loose := Value × List Nat

/-- A collection from loose parts; it is a knot when its parts are inside of some knot. -/
def tie (number : Nat) (v : Value) (inside : List Nat) : Loose :=
  if inside.isEmpty then (v, []) else (.knot number v, inside.filter (· != number))

/-- The loose values of places. -/
def looseItems (value : Nat → Loose) (places : List Nat) : List Value × List Nat :=
  let parts := places.map value
  (parts.map Prod.fst, parts.flatMap Prod.snd)

/-- The loose values of entries. -/
def looseEntries (value : Nat → Loose) (entries : List (Nat × Nat)) :
    List (Value × Value) × List Nat :=
  let parts := entries.map fun e => (value e.1, value e.2)
  (parts.map fun p => (p.1.1, p.2.1), parts.flatMap fun p => p.1.2 ++ p.2.2)

/-- The loose pairs of entries; `number` numbers those that are knots. -/
def loosePairs (value : Nat → Loose) (number : Nat → Nat) (entries : List (Nat × Nat)) :
    List Value × List Nat :=
  let parts := entries.mapIdx fun i e =>
    let (key, outer) := value e.1
    let (item, inner) := value e.2
    tie (number i) (.tuple [key, item]) (outer ++ inner)
  (parts.map Prod.fst, parts.flatMap Prod.snd)

/-- The value at a place inside of the places `around`. -/
def looseAt (found : Array (Option Content)) : Nat → List Nat → Nat → Loose
  | 0, _, _ => (.null, [])
  | fuel + 1, around, place =>
    if around.contains place then (.back place, [place])
    else
      let value := looseAt found fuel (place :: around)
      match (found[place]?).bind id with
      | none => (.null, [])
      | some (.scalar v) => (v, [])
      | some (.list items) =>
        let (vs, inside) := looseItems value items
        tie place (.list vs) inside
      | some (.set items) =>
        let (vs, inside) := looseItems value items
        tie place (.ofItems vs) inside
      | some (.map entries) =>
        let (es, inside) := looseEntries value entries
        tie place (.map es) inside
      | some (.pairs entries) =>
        let (vs, inside) := loosePairs value (fun i => place + found.size * (i + 1)) entries
        tie place (.list vs) inside

/-- The value of the root of a table. -/
def Graph.value (g : Graph) (root : Nat) : Except Fault Value := do
  let found ← g.contents root
  return (looseAt found (g.size + 1) [] root).1

/-- The characters that a document may hold. -/
def isAllowed (c : Char) : Bool :=
  let n := c.toNat
  n = 0x9 || n = 0xA || n = 0xD || (0x20 ≤ n && n ≤ 0x7E) || n = 0x85
    || (0xA0 ≤ n && n ≤ 0xD7FF) || (0xE000 ≤ n && n ≤ 0xFFFD) || 0x10000 ≤ n

/-- The value of the document that a text holds; an empty one has the value null. -/
def ofText (text : List Char) : Except Fault Value := do
  if !text.all isAllowed then throw .document
  let (root, g) ← Graph.ofText text
  match root with
  | none => return .null
  | some root => g.value root

end ProductionLP.Yaml
