import HeaderSurvey.Harness.Discover
import HeaderSurvey.Run.Files
import HeaderSurvey.Wrapper.Emit

/-!
# Wrappers for a tree of headers

The source directory is walked in depth, the entries of each directory in the order of their names.
A directory is listed when the walk comes to it, so files that the walk itself wrote before are
seen. Each header gives a header and a source under the same relative path in the destination; one
that does not parse is skipped and reported.

If the destination is below the source, the walk may find in each directory of the destination what
makes the next one, and then it comes to ever longer paths. On a system such a run ends in an error
at the first wrapper whose path is too long; here paths may have any length, and the run ends in the
same kind of fault at a depth that is fixed at its start (`depthBound`).
-/

namespace HeaderSurvey.Wrapper

/-- What a walk has done so far. -/
structure Report where
  /-- The files written, in order. -/
  generated : List String
  failures : List ScanFailure
  /-- How many entries, directories included, the walk has come to. -/
  visited : Nat
  deriving Repr, DecidableEq

/-- An entry of the walk: its path, and its names from the source directory down. -/
structure Entry where
  path : String
  names : List String
  isDir : Bool
  deriving Repr, DecidableEq

/-- The path of an entry below the source directory. -/
def Entry.relative (e : Entry) : String :=
  "/".intercalate e.names

/-- Whether a path has the extension of a header. -/
def isHeader (settings : WrapperSettings) (path : String) : Bool :=
  match Path.extension? path.toList with
  | none => false
  | some extension => settings.headerExtensions.contains (String.ofList extension)

/-- Where the wrapper header of a relative path goes. -/
def headerPath (dest relative : String) : String :=
  String.ofList (Path.withExtension ['h'] (Path.join dest.toList relative.toList))

/-- Where the wrapper source beside a wrapper header goes. -/
def sourcePath (header : String) : String :=
  String.ofList (Path.withExtension ['c', 'p', 'p'] header.toList)

/-- A record of the walk. -/
def record (level : Level) (message : String) : Record :=
  ⟨level, "declgen::wrapper", message⟩

/-- What is logged about the routines outside types. -/
def routineRecords (unit : SourceUnit) (d : Declarations) : List Record :=
  (d.routines.filter (·.scope = .file)).map fun r =>
    record .debug (unit.path ++ ":" ++ toString r.line ++ ": free function " ++ r.returnType ++
      " " ++ r.name ++ "(" ++ r.params ++ ")")

/-- Reads a header and writes its wrapper. -/
def wrapHeader (settings : WrapperSettings) (dest : String) (report : Report) (e : Entry) :
    Run Report := do
  let unit ← Run.loadUnit e.path report.visited
  match unit.parse .typesAndRoutines with
  | .error error =>
    Run.log [record .warn ("skipping " ++ unit.path ++ ": " ++ error.message)]
    return { report with failures := report.failures ++ [⟨unit, error⟩] }
  | .ok d =>
    Run.log (routineRecords unit d)
    let header := headerPath dest e.relative
    let source := sourcePath header
    Run.writeOutput header (emitHeader settings d.types)
    Run.writeOutput source (emitSource settings d.types e.relative)
    Run.log [record .info ("processed " ++ unit.path ++ " (" ++ toString d.types.length ++
      " types) -> " ++ header)]
    return { report with generated := report.generated ++ [header, source] }

/-- The entries of a directory that the walk has come to. -/
def Entry.children (e : Entry) (d : Disk) : List Entry :=
  match d.list e.path.toList with
  | .error _ => []
  | .ok names =>
    names.map fun name =>
      let path := Path.join e.path.toList name.toList
      ⟨String.ofList path, e.names ++ [name], d.isDir path⟩

/-- Comes to one entry: a header is wrapped, and behind a directory come the entries that it has at
this moment. -/
def visit (settings : WrapperSettings) (dest : String)
    (below : Report → List Entry → Run Report) (report : Report) (e : Entry) : Run Report := do
  if e.isDir then
    let children := e.children (← Run.disk)
    below { report with visited := report.visited + 1 } children
  else
    let report ←
      if isHeader settings e.path then wrapHeader settings dest report e else pure report
    return { report with visited := report.visited + 1 }

/-- Comes to each of the entries and, behind a directory, to the entries in it. Directories are
entered down to the given depth; an entry that is deeper ends the walk, as if the path of its
wrapper were too long. -/
def walk (settings : WrapperSettings) (dest : String) :
    (depth : Nat) → Report → List Entry → Run Report
  | 0, report, [] => return report
  | 0, _, e :: _ => throw (.write (headerPath dest e.relative) .nameTooLong)
  | depth + 1, report, entries =>
    entries.foldlM (visit settings dest (walk settings dest depth)) report

/-- How deep a walk may come. The wrappers of the headers that are there at the start do not lead so
deep, so a walk that takes none of its own wrappers for a header ends before. One that does may go on
and on, and then it ends in a fault here; whether it can come so deep and have an end is left open. -/
def depthBound (d : Disk) (dest : String) : Nat :=
  d.workDir.length + (d.nodes.length + 2) * (dest.length + 2)

/-- Writes wrappers for the headers under `src` to the same places under `dest`. -/
def generateTree (settings : WrapperSettings) (src dest : String) : Run Report := do
  let d ← Run.disk
  let node ← Run.orFault (.walk src) (d.lookup src.toList)
  let root : Entry := ⟨src, [], node = .dir⟩
  walk settings dest (depthBound d dest) ⟨[], [], 0⟩ [root]

end HeaderSurvey.Wrapper
