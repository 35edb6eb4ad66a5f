import ProductionLP.Fault
import ProductionLP.Text.Character

/- Paths.

   A path is a list of steps below a root, or below wherever it is looked up from. Empty
   steps and the step `.` say nothing and are dropped; the step `..` is kept in writing,
   because what it means depends on the files, and is taken away only when a path is
   resolved. -/
namespace ProductionLP

/-- A path; `slashes` counts the slashes that it is rooted with. -/
structure Path where
  slashes : Nat
  steps : List String
  deriving Repr, DecidableEq

namespace Path

/-- The pieces of a text between slashes. -/
def pieces : List Char → List (List Char)
  | [] => [[]]
  | '/' :: rest => [] :: pieces rest
  | c :: rest =>
    match pieces rest with
    | [] => [[c]]
    | p :: ps => (c :: p) :: ps

/-- The slashes of a root: two stay two, any other number is one. -/
def rootSlashes (count : Nat) : Nat := if count = 0 ∨ count = 2 then count else 1

/-- The path that a text names. -/
def ofText (s : String) : Path :=
  let cs := s.toList
  ⟨rootSlashes (cs.takeWhile (· == '/')).length,
    ((pieces cs).map String.ofList).filter fun p => p ≠ "" && p ≠ "."⟩

/-- A path as a text; the path without steps and root is a single dot. -/
def toText (p : Path) : String :=
  if p.slashes = 0 ∧ p.steps = [] then "."
  else String.ofList (List.replicate p.slashes '/') ++ "/".intercalate p.steps

/-- Whether the path starts at a root. -/
def rooted (p : Path) : Bool := p.slashes != 0

/-- A path looked up from another one; a rooted path stands for itself. -/
def join (base p : Path) : Path := if p.rooted then p else ⟨base.slashes, base.steps ++ p.steps⟩

/-- The path with one more step. -/
def child (p : Path) (step : String) : Path := ⟨p.slashes, p.steps ++ [step]⟩

/-- The path without its last step. -/
def parent (p : Path) : Path := ⟨p.slashes, p.steps.dropLast⟩

/-- Takes one step: `..` goes back, and stays where it is at the root. -/
def step (done : List String) (s : String) : List String :=
  if s = ".." then done.dropLast else done ++ [s]

/-- The rooted path without `..` that a path names from a working directory. -/
def resolve (directory p : Path) : Path :=
  let full := directory.join p
  ⟨full.slashes, full.steps.foldl step []⟩

/-- Whether a character has no octets in a path; the surrogates from DC80 to DCFF stand for
    single octets. -/
def isUnwritable (c : Char) : Bool :=
  let code := Text.codeOf c
  code != c.toNat && !(0xDC80 ≤ code && code < 0xDD00)

/-- Fails when a text cannot be handed over as a path. -/
def check (s : String) : Except Fault Unit :=
  if s.toList.any isUnwritable then .error .surrogateInPath
  else if s.toList.contains (Char.ofNat 0) then .error .nullInPath
  else .ok ()

/-- The octets of a text in a path. -/
def octetCount (s : String) : Nat :=
  (s.toList.map fun c => if Text.codeOf c = c.toNat then c.utf8Size else 1).foldl (· + ·) 0

/-- The greatest number of octets of a step, and of a path. -/
def longestStep : Nat := 255
def longestPath : Nat := 4095

/-- A path whose first step begins with a tilde, looked up from the home directory of the
    user that the step names, the user without a name being oneself. -/
def expand (homes : List (String × Path)) (p : Path) : Except Fault Path :=
  match p.slashes, p.steps with
  | 0, first :: rest =>
    match first.toList with
    | '~' :: user =>
      match homes.lookup (String.ofList user) with
      | some h => .ok ⟨h.slashes, h.steps ++ rest⟩
      | none => do
        check first
        throw .noHome
    | _ => .ok p
  | _, _ => .ok p

/-- The last dot of a name and what follows it. -/
def lastDot (name : List Char) : List Char :=
  '.' :: ((name.reverse.takeWhile (· != '.')).reverse)

/-- The suffix of a name: the last dot with what follows it, unless the dot is the first or
    the last character. -/
def suffixOf (name : String) : String :=
  let cs := name.toList
  let tail := lastDot cs
  if cs.contains '.' && tail.length < cs.length && 1 < tail.length then String.ofList tail else ""

/-- The suffix of the last step. -/
def suffix (p : Path) : String :=
  match p.steps.getLast? with
  | some name => suffixOf name
  | none => ""

end Path

end ProductionLP
