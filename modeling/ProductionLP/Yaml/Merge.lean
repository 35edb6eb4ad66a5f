import ProductionLP.Yaml.Node

/- Merged mappings.

   Under the merge key of a mapping stand other mappings whose entries are taken in before its
   own, those of an earlier mapping behind those of a later one. The merge keys are then gone
   from the table, and the key of a mapping's own value is an ordinary text. -/
namespace ProductionLP.Yaml.Graph

/-- The entries of the mapping at a place; other nodes have none. -/
def entriesAt (g : Graph) (place : Nat) : List (Nat × Nat) :=
  match g.at? place with
  | .mapping _ entries => entries
  | _ => []

/-- The entries of the mapping at a place set to others. -/
def setEntries (g : Graph) (place : Nat) (entries : List (Nat × Nat)) : Graph :=
  g.setIfInBounds place (.mapping (g.kindAt place) entries)

/-- Whether an entry has the merge key. -/
def isMerge (g : Graph) (entry : Nat × Nat) : Bool := g.kindAt entry.1 = .merge

/-- The key of an own value as a text. -/
def settleKey (g : Graph) (key : Nat) : Graph :=
  if g.kindAt key = .default then g.modify key Node.asText else g

/-- The number of parts of all collections. -/
def partCount (g : Graph) : Nat :=
  (g.toList.map fun n => match n with
    | .mapping _ entries => entries.length
    | .sequence _ items => items.length
    | .scalar _ _ => 0).foldl (· + ·) 0

mutual

/-- Takes in what the merge keys of a mapping name; `taken` is what has been taken in before. -/
def flattenFrom (place : Nat) (taken : List (Nat × Nat)) : Nat → Graph → Except Fault Graph
  | 0, _ => .error .document
  | fuel + 1, g =>
    let entries := g.entriesAt place
    match entries.find? g.isMerge with
    | none =>
      .ok ((entries.map Prod.fst).foldl settleKey (g.setEntries place (taken ++ entries)))
    | some (_, source) => do
      let g := g.setEntries place (entries.eraseP g.isMerge)
      match g.at? source with
      | .mapping _ _ =>
        let g ← flattenFrom source [] fuel g
        flattenFrom place (taken ++ g.entriesAt source) fuel g
      | .sequence _ items =>
        let (more, g) ← flattenAll items fuel g
        flattenFrom place (taken ++ more) fuel g
      | .scalar _ _ => throw .document

/-- The entries of several mappings after their own merging, those of the later first. -/
def flattenAll : List Nat → Nat → Graph → Except Fault (List (Nat × Nat) × Graph)
  | _, 0, _ => .error .document
  | [], _, g => .ok ([], g)
  | place :: rest, fuel + 1, g =>
    match g.at? place with
    | .mapping _ _ => do
      let g ← flattenFrom place [] fuel g
      let own := g.entriesAt place
      let (more, g) ← flattenAll rest fuel g
      return (more ++ own, g)
    | _ => .error .document

end

/-- The table after the merging of a mapping. Every step on the way either takes away a merge
    key or passes an item of what stands under one, so that the steps are bounded. -/
def flatten (g : Graph) (place : Nat) : Except Fault Graph :=
  flattenFrom place [] ((g.partCount + 2) * (g.partCount + 2)) g

end ProductionLP.Yaml.Graph
