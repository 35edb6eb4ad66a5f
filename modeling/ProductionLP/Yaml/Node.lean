import ProductionLP.Yaml.Kind
import ProductionLP.Yaml.Token

/- Nodes of a document.

   A node is a scalar, a sequence or a mapping of a kind. The nodes of a document are kept in a
   table, and a collection names its parts by their places in it: an alias is the place of the
   node that its anchor names, which may still be open, so that a collection can hold itself.
   A missing node, as behind a colon at the end of a line, is the empty plain scalar. -/
namespace ProductionLP.Yaml

/-- A node; its parts are places in the table. -/
inductive Node where
  | scalar (kind : Kind) (text : String)
  | sequence (kind : Kind) (items : List Nat)
  | mapping (kind : Kind) (entries : List (Nat × Nat))
  deriving Repr, DecidableEq

namespace Node

instance : Inhabited Node := ⟨.scalar .nothing ""⟩

/-- The kind of a node. -/
def kind : Node → Kind
  | .scalar k _ => k
  | .sequence k _ => k
  | .mapping k _ => k

/-- The node as one that stands for a text. -/
def asText : Node → Node
  | .scalar _ text => .scalar .text text
  | .sequence _ items => .sequence .text items
  | .mapping _ entries => .mapping .text entries

/-- The node that stands where none is written. -/
def missing : Node := .scalar .nothing ""

end Node

/-- The table of the nodes of a document. -/
abbrev Graph := Array Node

namespace Graph

/-- The node at a place. -/
def at? (g : Graph) (place : Nat) : Node := (g[place]?).getD .missing

/-- The kind of the node at a place. -/
def kindAt (g : Graph) (place : Nat) : Kind := (g.at? place).kind

end Graph

/-! Reading. -/

/-- The state of reading nodes. -/
structure Reader where
  /-- The tokens that are still to be read, and why there are no others. -/
  rest : List Token
  stop : Fault
  /-- The meanings of handles. -/
  handles : List (String × String)
  /-- The nodes that anchors name. -/
  anchors : List (String × Nat)
  nodes : Graph

/-- A step of reading nodes. -/
abbrev Reading (α : Type) := StateT Reader (Except Fault) α

namespace Reader

/-- The meanings of handles that need no directive. -/
def standardHandles : List (String × String) := [("!", "!"), ("!!", standardTag "")]

/-- The beginning of a document. -/
def start (tokens : Tokens) : Reader := ⟨tokens.list, tokens.stop, standardHandles, [], #[]⟩

/-! Tokens. -/

/-- The next token. -/
def peek : Reading Token := do
  match (← get).rest with
  | t :: _ => return t
  | [] => throw (← get).stop

/-- Past the next token. -/
def skip : Reading Unit := modify fun r => { r with rest := r.rest.tail }

/-- Whether the next token is one of several. -/
def isNext (choices : List Token) : Reading Bool := do return choices.contains (← peek)

/-- Past the next token if it is the given one; whether it was. -/
def accept (t : Token) : Reading Bool := do
  if (← peek) == t then
    skip
    return true
  else return false

/-- Past the next token, which must be the given one. -/
def demand (t : Token) : Reading Unit := do
  if !(← accept t) then throw .document

/-! Properties of nodes. -/

/-- An anchor, if one is next. -/
def anchor? : Reading (Option String) := do
  match ← peek with
  | .anchor name =>
    skip
    return some name
  | _ => return none

/-- A tag, if one is next. -/
def tag? : Reading (Option (Option String × String)) := do
  match ← peek with
  | .tag handle name =>
    skip
    return some (handle, name)
  | _ => return none

/-- The full tag; its handle must have a meaning. -/
def fullTag (tag : Option (Option String × String)) : Reading (Option String) := do
  match tag with
  | none => return none
  | some (none, name) => return some name
  | some (some handle, name) =>
    match (← get).handles.lookup handle with
    | some meaning => return some (meaning ++ name)
    | none => throw .document

/-- The anchor and the tag that are written before a node, in either order. -/
def properties : Reading (Option String × Option String) := do
  match ← anchor? with
  | some name => return (some name, ← fullTag (← tag?))
  | none =>
    match ← tag? with
    | some tag => do
      let anchor ← anchor?
      return (anchor, ← fullTag (some tag))
    | none => return (none, none)

/-- The tag that leaves the kind of a node to be found. -/
def anyTag : String := "!"

/-- The kind of a scalar. -/
def scalarKind (tag : Option String) (plain : Bool) (text : String) : Kind :=
  match tag with
  | none => if plain then Kind.ofText text else .text
  | some t => if t = anyTag then Kind.ofText text else Kind.ofTag t

/-- The kind of a collection; one without a tag is of the kind that it is written as. -/
def collectionKind (tag : Option String) (standard : Kind) : Kind :=
  match tag with
  | none => standard
  | some t => if t = anyTag then standard else Kind.ofTag t

/-! Nodes. -/

/-- A new node behind the others. -/
def add (n : Node) : Reading Nat :=
  modifyGet fun r => (r.nodes.size, { r with nodes := r.nodes.push n })

/-- A new node under an anchor, which must not be in use. -/
def announce (anchor : Option String) (n : Node) : Reading Nat := do
  match anchor with
  | none => add n
  | some name =>
    if ((← get).anchors.lookup name).isSome then throw .document
    let place ← add n
    modify fun r => { r with anchors := (name, place) :: r.anchors }
    return place

/-- The node at a place set to another one. -/
def replace (place : Nat) (n : Node) : Reading Unit :=
  modify fun r => { r with nodes := r.nodes.setIfInBounds place n }

/-- The place that an alias stands for. -/
def resolve (name : String) : Reading Nat := do
  match (← get).anchors.lookup name with
  | some place => return place
  | none => throw .document

/-- The deepest that collections are nested. -/
def deepest : Nat := 487

/-- A new sequence with the items that are then read. -/
def sequence (anchor tag : Option String) (depth : Nat) (items : Reading (List Nat)) :
    Reading Nat := do
  let kind := collectionKind tag .sequence
  let place ← announce anchor (.sequence kind [])
  if deepest < depth then throw .deepDocument
  replace place (.sequence kind (← items))
  return place

/-- A new mapping with the entries that are then read. -/
def mapping (anchor tag : Option String) (depth : Nat) (entries : Reading (List (Nat × Nat))) :
    Reading Nat := do
  let kind := collectionKind tag .mapping
  let place ← announce anchor (.mapping kind [])
  if deepest < depth then throw .deepDocument
  replace place (.mapping kind (← entries))
  return place

/-- The tokens that end an item of a block sequence; one without its own indentation may also
    end with the mapping around it. -/
def itemEnds (indentless : Bool) : List Token :=
  if indentless then [.blockEntry, .key, .value, .blockEnd] else [.blockEntry, .blockEnd]

/-- The tokens that end a key or value of a block mapping. -/
def partEnds : List Token := [.key, .value, .blockEnd]

mutual

/-- Reads a node inside `depth` collections. In a block context collections may be indented; a
    sequence as the value of a key may stand at the key's own column. -/
def read (inBlock indentless : Bool) (depth : Nat) : Nat → Reading Nat
  | 0 => throw .document
  | fuel + 1 => do
    if let .alias name ← peek then
      skip
      return ← resolve name
    let (anchor, tag) ← properties
    match indentless, inBlock, ← peek with
    | true, _, .blockEntry => sequence anchor tag depth (readBlockItems true (depth + 1) fuel)
    | _, _, .scalar plain text =>
      skip
      announce anchor (.scalar (scalarKind tag plain text) text)
    | _, _, .flowSequence =>
      sequence anchor tag depth do
        skip
        readFlowItems true (depth + 1) fuel
    | _, _, .flowMapping =>
      mapping anchor tag depth do
        skip
        readFlowEntries true (depth + 1) fuel
    | _, true, .blockSequence =>
      sequence anchor tag depth do
        skip
        readBlockItems false (depth + 1) fuel
    | _, true, .blockMapping =>
      mapping anchor tag depth do
        skip
        readBlockEntries (depth + 1) fuel
    | _, _, _ =>
      if anchor.isSome || tag.isSome then announce anchor (.scalar (scalarKind tag true "") "")
      else throw .document
termination_by structural fuel => fuel

/-- Reads a node, or the missing one when one of the given tokens is next. -/
def readUnless (ends : List Token) (inBlock indentless : Bool) (depth : Nat) : Nat → Reading Nat
  | 0 => throw .document
  | fuel + 1 => do
    if ← isNext ends then add .missing else read inBlock indentless depth fuel
termination_by structural fuel => fuel

/-- Reads the value behind a colon, or the missing node when there is no colon. -/
def readValue (ends : List Token) (inBlock indentless : Bool) (depth : Nat) : Nat → Reading Nat
  | 0 => throw .document
  | fuel + 1 => do
    if ← accept .value then readUnless ends inBlock indentless depth fuel else add .missing
termination_by structural fuel => fuel

/-- The items of a block sequence. -/
def readBlockItems (indentless : Bool) (depth : Nat) : Nat → Reading (List Nat)
  | 0 => throw .document
  | fuel + 1 => do
    if ← accept .blockEntry then
      let item ← readUnless (itemEnds indentless) true false depth fuel
      return item :: (← readBlockItems indentless depth fuel)
    else
      if !indentless then demand .blockEnd
      return []
termination_by structural fuel => fuel

/-- The entries of a block mapping. -/
def readBlockEntries (depth : Nat) : Nat → Reading (List (Nat × Nat))
  | 0 => throw .document
  | fuel + 1 => do
    if ← accept .key then
      let key ← readUnless partEnds true true depth fuel
      let value ← readValue partEnds true true depth fuel
      return (key, value) :: (← readBlockEntries depth fuel)
    else
      demand .blockEnd
      return []
termination_by structural fuel => fuel

/-- The items of a sequence in brackets; an item with a key is a mapping of its own. -/
def readFlowItems (first : Bool) (depth : Nat) : Nat → Reading (List Nat)
  | 0 => throw .document
  | fuel + 1 => do
    if ← accept .flowSequenceEnd then return []
    if !first then demand .flowEntry
    if ← accept .flowSequenceEnd then return []
    let item ←
      if (← peek) == .key then
        mapping none none depth do
          skip
          let key ← readUnless [.value, .flowEntry, .flowSequenceEnd] false false (depth + 1) fuel
          let value ← readValue [.flowEntry, .flowSequenceEnd] false false (depth + 1) fuel
          return [(key, value)]
      else read false false depth fuel
    return item :: (← readFlowItems false depth fuel)
termination_by structural fuel => fuel

/-- The entries of a mapping in brackets; an entry without a key token has no value. -/
def readFlowEntries (first : Bool) (depth : Nat) : Nat → Reading (List (Nat × Nat))
  | 0 => throw .document
  | fuel + 1 => do
    if ← accept .flowMappingEnd then return []
    if !first then demand .flowEntry
    if ← accept .flowMappingEnd then return []
    let entry ←
      if ← accept .key then
        let key ← readUnless [.value, .flowEntry, .flowMappingEnd] false false depth fuel
        pure (key, ← readValue [.flowEntry, .flowMappingEnd] false false depth fuel)
      else
        let key ← read false false depth fuel
        pure (key, ← add .missing)
    return entry :: (← readFlowEntries false depth fuel)
termination_by structural fuel => fuel

end

/-! Documents. -/

/-- Takes in directives: one version at most, whose first number is one, and no handle
    twice. -/
def readDirectives (versioned : Bool) (handles : List (String × String)) :
    Nat → Reading (List (String × String))
  | 0 => throw .document
  | fuel + 1 => do
    match ← peek with
    | .directive (.version major _) =>
      if versioned || major != 1 then throw .document
      skip
      readDirectives true handles fuel
    | .directive (.handle name meaning) =>
      if (handles.lookup name).isSome then throw .document
      skip
      readDirectives versioned ((name, meaning) :: handles) fuel
    | .directive .reserved =>
      skip
      readDirectives versioned handles fuel
    | _ => return handles

/-- Handles with the standard ones that they leave out. -/
def withStandard (handles : List (String × String)) : List (String × String) :=
  handles ++ standardHandles.filter fun h => (handles.lookup h.1).isNone

/-- Whether no content comes next. -/
def isEmptyNext : Reading Bool := do
  match ← peek with
  | .directive _ => return true
  | t => return [Token.documentStart, .documentEnd, .streamEnd].contains t

/-- Past the markers of a document's end, behind which nothing may follow. -/
def readEnd : Nat → Reading Unit
  | 0 => throw .document
  | fuel + 1 => do
    if ← accept .documentEnd then readEnd fuel else demand .streamEnd

/-- The root of the document, if there is one. -/
def document (fuel : Nat) : Reading (Option Nat) := do
  if ← accept .streamEnd then return none
  let explicit ← match ← peek with
    | .documentStart => pure true
    | .directive _ => pure true
    | _ => pure false
  if explicit then
    let handles ← readDirectives false [] fuel
    demand .documentStart
    modify fun r => { r with handles := withStandard handles }
  let root ← if explicit && (← isEmptyNext) then add .missing else read true false 0 fuel
  readEnd fuel
  return some root

end Reader

/-- The nodes of a text and the place of the root among them, if there is a root. -/
def Graph.ofText (text : List Char) : Except Fault (Option Nat × Graph) := do
  let tokens := Tokens.ofText text
  let (root, r) ← (Reader.document (4 * tokens.list.length + 8)).run (Reader.start tokens)
  return (root, r.nodes)

end ProductionLP.Yaml
