import ProductionLP.Yaml.Merge
import ProductionLP.Yaml.Scalar

/- Contents of a document.

   The contents of the nodes are found from the root on: those of a scalar at once, those of a
   collection when its turn comes, after all collections that were met before it. Each node is
   gone through once, wherever it occurs. In a mapping the last value of a key counts. -/
namespace ProductionLP.Yaml

/-- What a node stands for; parts are places in the table. -/
inductive Content where
  | scalar (v : Value)
  | list (items : List Nat)
  | pairs (entries : List (Nat × Nat))
  | map (entries : List (Nat × Nat))
  | set (items : List Nat)

/-- The state of finding the contents. -/
structure Finder where
  graph : Graph
  found : Array (Option Content)
  /-- The collections that were met, and how many of them have had their turn. -/
  met : Array Nat
  done : Nat

/-- A step of finding the contents. -/
abbrev Finding (α : Type) := StateT Finder (Except Fault) α

namespace Finder

/-- The beginning. -/
def start (g : Graph) : Finder := ⟨g, Array.replicate g.size none, #[], 0⟩

/-- The content that is found for a place. -/
def content? (f : Finder) (place : Nat) : Option Content := (f.found[place]?).bind id

/-- The text of a scalar; a mapping has the text under the key of its own value. -/
def textAt (g : Graph) : Nat → Nat → Except Fault String
  | 0, _ => .error .deepDocument
  | fuel + 1, place =>
    match g.at? place with
    | .scalar _ text => .ok text
    | .sequence _ _ => .error .document
    | .mapping _ entries =>
      match entries.find? fun e => g.kindAt e.1 = .default with
      | some (_, value) => textAt g fuel value
      | none => .error .document

/-- The value of the scalar at a place. -/
def scalarAt (g : Graph) (place : Nat) : Except Fault Value := do
  let kind := g.kindAt place
  if [Kind.merge, .default, .unknown].contains kind then throw .document
  let text ← textAt g (g.size + 1) place
  match g.at? place, kind with
  | .mapping _ _, .date => throw .wrongKind
  | _, _ => kind.value text

/-- Sets the content of a place. -/
def settle (place : Nat) (c : Content) : Finding Unit :=
  modify fun f => { f with found := f.found.setIfInBounds place (some c) }

/-- Meets a node: a scalar is read, a collection is put off. -/
def meet (place : Nat) : Finding Unit := do
  let f ← get
  if (f.content? place).isSome then return
  if [Kind.sequence, .mapping, .set, .pairs].contains (f.graph.kindAt place) then
    settle place (.list [])
    modify fun f => { f with met := f.met.push place }
  else settle place (.scalar (← scalarAt f.graph place))

/-- A node that is written as the one shared undefined number. -/
def isUndefined (g : Graph) (place : Nat) : Bool :=
  match textAt g (g.size + 1) place with
  | .ok text => undefinedWords.contains (String.ofList (unsigned (plainNumber text)))
  | .error _ => false

/-- Whether two keys are the same. The undefined number is the same as itself only where it is
    the shared one. -/
def sameKey (f : Finder) (a b : Nat) : Bool :=
  a == b ||
    match f.content? a, f.content? b with
    | some (.scalar (.num x)), some (.scalar (.num y)) =>
      x == y || (x.isNaN && y.isNaN && isUndefined f.graph a && isUndefined f.graph b)
    | some (.scalar x), some (.scalar y) => Value.sameKey x y
    | _, _ => false

/-- Sets a key: in place when it is there, at the end otherwise. -/
def insert (f : Finder) (key value : Nat) : List (Nat × Nat) → List (Nat × Nat)
  | [] => [(key, value)]
  | (k, v) :: rest =>
    if f.sameKey k key then (k, value) :: rest else (k, v) :: insert f key value rest

/-- Meets the key and the value of an entry; collections cannot be keys. -/
def meetEntry (e : Nat × Nat) : Finding Unit := do
  meet e.1
  match (← get).content? e.1 with
  | some (.scalar _) => meet e.2
  | _ => throw .document

/-- The entries of a mapping after its merging. -/
def entriesAt (place : Nat) : Finding (List (Nat × Nat)) := do
  match (← get).graph.at? place with
  | .mapping _ _ =>
    let g ← (← get).graph.flatten place
    modify fun f => { f with graph := g }
    let entries := g.entriesAt place
    entries.forM meetEntry
    let f ← get
    return entries.foldl (fun m e => f.insert e.1 e.2 m) []
  | _ => throw .document

/-- The items of a sequence. -/
def itemsAt (place : Nat) : Finding (List Nat) := do
  match (← get).graph.at? place with
  | .sequence _ items => return items
  | _ => throw .document

/-- The entry of a mapping with one entry. -/
def pairAt (place : Nat) : Finding (Nat × Nat) := do
  match (← get).graph.at? place with
  | .mapping _ [(key, value)] =>
    meet key
    meet value
    return (key, value)
  | _ => throw .document

/-- Gives a collection its turn. -/
def fill (place : Nat) : Finding Unit := do
  match (← get).graph.kindAt place with
  | .mapping => settle place (.map (← entriesAt place))
  | .set => settle place (.set ((← entriesAt place).map Prod.fst))
  | .pairs => settle place (.pairs (← (← itemsAt place).mapM pairAt))
  | _ =>
    let items ← itemsAt place
    items.forM meet
    settle place (.list items)

/-- Gives the collections their turns in the order in which they were met. -/
def fillAll : Nat → Finding Unit
  | 0 => return
  | fuel + 1 => do
    let f ← get
    match f.met[f.done]? with
    | none => return
    | some place =>
      set { f with done := f.done + 1 }
      fill place
      fillAll fuel

/-- Finds the contents of all nodes that are reached from a place. -/
def find (root : Nat) : Finding Unit := do
  meet root
  fillAll ((← get).graph.size + 1)

end Finder

/-- The contents of the nodes that are reached from a root. -/
def Graph.contents (g : Graph) (root : Nat) : Except Fault (Array (Option Content)) := do
  let (_, f) ← (Finder.find root).run (Finder.start g)
  return f.found

end ProductionLP.Yaml
