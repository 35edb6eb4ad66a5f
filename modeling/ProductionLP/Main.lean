import ProductionLP.CommandLine.Run

/- The command.

   What the command needs to know of the files is looked up before a run and what the run has
   changed is written afterwards; the run itself is the function `CommandLine.run`. -/
namespace ProductionLP.Command

/-- The text of a rooted path. -/
def rootedText (steps : List String) : String := (Path.mk 1 steps).toText

/-- What stands at a path, if anything does. What is there and has no octets is a directory. -/
def entryAt (path : String) : IO (Option Entry) := do
  try
    return some (.file (← IO.FS.readBinFile path).toList)
  catch e =>
    match e with
    | .noFileOrDirectory .. => return none
    | _ => return some .directory

/-- The tree with everything on the way to a path. -/
def lookAlong (tree : FileTree) (path : Path) : IO FileTree := do
  let mut tree := tree
  let mut place : List String := []
  for s in path.steps do
    place := Path.step place s
    if (tree.entries.lookup place).isNone then
      if let some e ← entryAt (rootedText place) then tree := tree.set place e
  return tree

/-- The tree with everything on the way to some paths. -/
def lookAll (tree : FileTree) (paths : List Path) : IO FileTree := paths.foldlM lookAlong tree

/-- The files that a run may write below a directory. -/
def outputs (out : Path) : List Path :=
  let charts := out.child CommandLine.chartDirectory
  [out.child CommandLine.traceFile, out.child CommandLine.solutionFile,
    charts.child "objective.png", charts.child "decisions.png"]

/-- What a command line needs to know of the files. -/
def survey (place : CommandLine.Place) (words : List String) : IO FileTree := do
  match CommandLine.Request.ofWords words with
  | .run o =>
    match (Path.ofText o.config).expand place.homes with
    | .error _ => return .empty
    | .ok path =>
      let path := place.directory.resolve path
      let tree ← lookAlong .empty path
      let tree ← lookAll tree (Config.sourcesAt tree path)
      let out := place.directory.join (Path.ofText (o.out.getD ""))
      lookAll tree (outputs out)
  | _ => return .empty

/-- Writes an entry that a run has changed. -/
def writeEntry (before : FileTree) (e : List String × Entry) : IO Unit := do
  if before.entries.lookup e.1 ≠ some e.2 then
    match e.2 with
    | .directory => IO.FS.createDirAll (rootedText e.1)
    | .file octets => IO.FS.writeBinFile (rootedText e.1) (ByteArray.mk octets.toArray)

/-- The place that the command was started in. -/
def placeHere : IO CommandLine.Place := do
  let directory := Path.ofText (← IO.currentDir).toString
  let home ← IO.getEnv "HOME"
  return ⟨directory, home.toList.map fun h => ("", Path.ofText h)⟩

end ProductionLP.Command

/-- Runs the command. -/
def main (words : List String) : IO UInt32 := do
  let place ← ProductionLP.Command.placeHere
  let before ← ProductionLP.Command.survey place words
  let (result, console) :=
    ProductionLP.CommandLine.run place before words ProductionLP.Reference.atHand
  console.files.entries.forM (ProductionLP.Command.writeEntry before)
  IO.print console.output
  IO.eprint console.errors
  match result with
  | .ok code => return code.toUInt32
  | .error e =>
    IO.eprintln ("cli.py: failed: " ++ e.message)
    return 1
