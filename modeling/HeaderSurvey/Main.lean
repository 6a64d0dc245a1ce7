import HeaderSurvey.CommandLine.Commands

/-!
# The program

Reads the part of the real disk that the arguments name, runs the program on it, writes what has
changed, and prints what is shown.
-/

namespace HeaderSurvey

/-- The paths that a command line may read or write. -/
def pathsOf (args : List String) : List String :=
  match Arguments.parse args with
  | .error _ => []
  | .ok i =>
    i.settingsPath.toList ++
      match i.command with
      | .generateWrappers src dest => [src, dest]
      | .generateHarness output _ files => output.toList ++ files
      | .listDeclarations files => files

/-- The locations that the pieces of a path lead to, one after the other. -/
def locationsFrom (loc : Location) : List (List Char) → List Location
  | [] => []
  | piece :: pieces =>
    let next :=
      if Path.isIdle piece then loc
      else if piece = ['.', '.'] then loc.dropLast
      else loc ++ [String.ofList piece]
    next :: locationsFrom next pieces

/-- The absolute path of a location. -/
def absolute (loc : Location) : String :=
  "/" ++ "/".intercalate loc

/-- Adds what is really at a location, but nothing below it. -/
def addNode (loc : Location) (d : Disk) : IO Disk := do
  if loc.isEmpty then return d
  match ← (some <$> IO.FS.realPath (absolute loc)) <|> pure none with
  | none => return d
  | some real =>
    if ← real.isDir then return d.set loc .dir
    else if ← real.pathExists then
      return d.set loc (.file (← IO.FS.readBinFile real).toList)
    else return d

/-- Adds what is really at a location and below it. -/
partial def addTree (loc : Location) (d : Disk) : IO Disk := do
  let d ← addNode loc d
  if d.node? loc = some .dir then
    let real ← IO.FS.realPath (absolute loc)
    (← real.readDir).foldlM (fun d e => addTree (loc ++ [e.fileName]) d) d
  else return d

/-- Adds what a path leads to, with all that lies on the way. -/
def addPath (d : Disk) (path : String) : IO Disk := do
  let pieces := Text.splitBy (· = '/') path.toList
  let locations := locationsFrom (d.origin path.toList) pieces
  let d ← locations.foldlM (fun d loc => addNode loc d) d
  match locations.getLast? with
  | none => return d
  | some loc => addTree loc d

/-- The part of the real disk that the paths lead to. -/
def loadDisk (paths : List String) : IO Disk := do
  let workDir := (← IO.currentDir).toString
  let locations := locationsFrom [] (Text.splitBy (· = '/') workDir.toList)
  let d ← locations.foldlM (fun d loc => addNode loc d) ⟨[], []⟩
  paths.foldlM addPath { d with workDir := locations.getLastD [] }

/-- Writes what a run has changed. -/
def storeDisk (before after : Disk) : IO Unit :=
  after.nodes.forM fun (loc, n) => do
    if before.node? loc ≠ some n then
      match n with
      | .dir => IO.FS.createDirAll (absolute loc)
      | .file bytes => IO.FS.writeBinFile (absolute loc) bytes.toByteArray

end HeaderSurvey

open HeaderSurvey in
/-- Runs the program with the arguments of the process. -/
def main (args : List String) : IO UInt32 := do
  let before ← loadDisk (pathsOf args)
  let outcome := runProgram args (← IO.getEnv "RUST_LOG") before
  storeDisk before outcome.disk
  IO.print outcome.stdout
  IO.eprint outcome.stderr
  return outcome.code.toUInt32
