import ProductionLP.Files.Path

/- Files.

   A tree of files as the program sees it: directories and files under rooted paths without
   `..`. Looking a path up walks it step by step, so that `..` after a missing directory
   leads nowhere. What the program writes is a new tree. -/
namespace ProductionLP

/-- What a path of a tree leads to. -/
inductive Entry where
  | directory
  | file (octets : List UInt8)
  deriving Repr, DecidableEq

/-- Entries under the steps that lead to them; the directories on the way need not be
    listed. -/
structure FileTree where
  entries : List (List String × Entry)
  deriving Repr, DecidableEq

namespace FileTree

/-- The tree that has only its root. -/
def empty : FileTree := ⟨[]⟩

/-- Whether some entry lies below these steps. -/
def hasBelow (t : FileTree) (steps : List String) : Bool :=
  t.entries.any fun e => steps.isPrefixOf e.1

/-- What the steps lead to. -/
def entry? (t : FileTree) (steps : List String) : Option Entry :=
  match t.entries.lookup steps with
  | some e => some e
  | none => if steps = [] || t.hasBelow steps then some .directory else none

/-- The entry at these steps set to another one. -/
def put (steps : List String) (e : Entry) : List (List String × Entry) → List (List String × Entry)
  | [] => [(steps, e)]
  | (s, f) :: rest => if s = steps then (s, e) :: rest else (s, f) :: put steps e rest

/-- The tree with an entry at these steps. -/
def set (t : FileTree) (steps : List String) (e : Entry) : FileTree := ⟨put steps e t.entries⟩

/-- Walks the steps from a place; every place that is left must be a directory. The result
    is where the walk ends, whether or not something is there. -/
def walk (t : FileTree) (path : Path) (at_ : List String) : List String → Except Fault (List String)
  | [] => .ok at_
  | s :: rest =>
    match t.entry? at_ with
    | none => .error (.notFound path.toText)
    | some (.file _) => .error (.notDirectory path.toText)
    | some .directory =>
      if Path.longestStep < Path.octetCount s then .error (.longPath path.toText)
      else walk t path (Path.step at_ s) rest

/-- Fails when a path cannot be looked up whatever the files are. -/
def checkPath (path : Path) : Except Fault Unit := do
  Path.check path.toText
  if Path.longestPath < Path.octetCount path.toText then throw (.longPath path.toText)

/-- Where a rooted path leads. -/
def locate (t : FileTree) (path : Path) : Except Fault (List String) := do
  checkPath path
  t.walk path [] path.steps

/-- Whether a path leads to something; nothing is there where a path cannot lead, but a path
    may be too long to ask. -/
def has (t : FileTree) (path : Path) : Except Fault Bool :=
  match t.locate path with
  | .ok steps => .ok (t.entry? steps).isSome
  | .error (.longPath p) => .error (.longPath p)
  | .error _ => .ok false

/-- The octets of the file at a path. -/
def read (t : FileTree) (path : Path) : Except Fault (List UInt8) := do
  match t.entry? (← t.locate path) with
  | none => .error (.notFound path.toText)
  | some .directory => .error (.isDirectory path.toText)
  | some (.file octets) => .ok octets

/-- Makes the directories along the steps from a place. -/
def makeFrom (path : Path) (t : FileTree) (at_ : List String) : List String → Except Fault FileTree
  | [] =>
    match t.entry? at_ with
    | none => .ok (t.set at_ .directory)
    | some .directory => .ok t
    | some (.file _) => .error (.alreadyThere path.toText)
  | s :: rest =>
    if Path.longestStep < Path.octetCount s then .error (.longPath path.toText)
    else
      match t.entry? at_ with
      | none => makeFrom path (t.set at_ .directory) (Path.step at_ s) rest
      | some .directory => makeFrom path t (Path.step at_ s) rest
      | some (.file _) => .error (.notDirectory path.toText)

/-- Makes the directory at a path and those on the way to it, where they are missing. -/
def makeDirectories (t : FileTree) (path : Path) : Except Fault FileTree := do
  checkPath path
  makeFrom path t [] path.steps

/-- Writes a file whose directory is there. -/
def write (t : FileTree) (path : Path) (octets : List UInt8) : Except Fault FileTree := do
  let steps ← t.locate path
  match t.entry? steps with
  | some .directory => .error (.isDirectory path.toText)
  | _ =>
    match t.entry? steps.dropLast with
    | some .directory => .ok (t.set steps (.file octets))
    | some (.file _) => .error (.notDirectory path.toText)
    | none => .error (.notFound path.toText)

/-- Writes a file after making its directory. -/
def deliver (t : FileTree) (path : Path) (octets : List UInt8) : Except Fault FileTree := do
  (← t.makeDirectories path.parent).write path octets

/-- The files of the tree, with the steps that lead to them. -/
def files (t : FileTree) : List (List String × List UInt8) :=
  t.entries.filterMap fun e =>
    match e.2 with
    | .file octets => some (e.1, octets)
    | .directory => none

end FileTree

end ProductionLP
