import HeaderSurvey.CommandLine.Arguments
import HeaderSurvey.CommandLine.LogFilter
import HeaderSurvey.Diagnostic
import HeaderSurvey.Harness.Emit
import HeaderSurvey.Harness.Files
import HeaderSurvey.Settings.Decode
import HeaderSurvey.Wrapper.Tree

/-!
# Commands

What each command does to a disk and what it shows. Files that do not parse are shown as
diagnostics, with their number behind them, and make the exit code one; so does a fault, which ends
the command at once.
-/

namespace HeaderSurvey

/-- A record of the main program. -/
def mainRecord (level : Level) (message : String) : Record :=
  ⟨level, "declscan", message⟩

/-- Reads the settings of a file, or gives the default ones. -/
def loadSettings : Option String → Run Settings
  | none => return {}
  | some path => do
    match Settings.ofToml (← Run.readText path) with
    | .ok s => return s
    | .error e => throw (.invalidSettings path e.message)

/-- Adds the file of a failure to the table and shows the error with the number that the file has
there, whatever number it came with. -/
def showFailure (files : FileTable) (f : ScanFailure) : Run FileTable := do
  let (files, fileId) := files.add ⟨f.unit.path, f.unit.text⟩
  (Diagnostic.ofError? files { f.error with fileId := fileId }).forM fun d =>
    Run.tell (.diagnostic d.render)
  return files

/-- Shows the failures and how many there are, and gives the exit code that they imply. -/
def showFailures (failures : List ScanFailure) : Run Nat := do
  if failures.isEmpty then return 0
  else
    let _ ← failures.foldlM showFailure []
    Run.tell (.diagnostic
      ("error: " ++ toString failures.length ++ " file(s) could not be scanned\n"))
    return 1

/-! ### Listing declarations -/

/-- The line of a type in a listing. -/
def TypeDecl.listing (t : TypeDecl) : String :=
  let bases := if t.hasBases then " : " ++ ", ".intercalate t.bases else ""
  "  " ++ t.keyword.text ++ " " ++ t.name ++ bases ++ "  (line " ++ toString t.line ++ ")"

/-- The line of a routine in a listing. -/
def Routine.listing (r : Routine) : String :=
  let scope :=
    match r.scope with
    | .file => "<file scope>"
    | .type owner => owner
  "  " ++ r.returnType ++ " " ++ r.name ++ "(" ++ r.params ++ ")  [" ++ scope ++ "]  (line " ++
    toString r.line ++ ")"

/-- The lines of a file in a listing. -/
def Declarations.listing (path : String) (d : Declarations) : List String :=
  path :: d.types.map TypeDecl.listing ++ d.routines.map Routine.listing

/-- Lists one file; gives its failure if it does not parse. -/
def listFile (path : String) (fileId : Nat) : Run (Option ScanFailure) := do
  let unit ← Run.loadUnit path fileId
  match unit.parse .typesAndRoutines with
  | .error e => return some ⟨unit, e⟩
  | .ok d =>
    (d.listing path).forM fun line => Run.tell (.output line)
    return none

/-! ### The commands -/

/-- Writes wrappers for a tree of headers. -/
def generateWrappers (settings : Settings) (src dest : String) : Run Nat := do
  let report ← Wrapper.generateTree settings.wrappers src dest
  Run.log [mainRecord .info
    ("generated " ++ toString report.generated.length ++ " files under " ++ dest)]
  showFailures report.failures

/-- Writes the harness for the test cases that were found. -/
def writeHarness (settings : Settings) (scan : Harness.Scan) (path : String) : Run Unit := do
  Run.writeOutput path (Harness.emit settings.harness scan.cases)
  Run.log [mainRecord .info
    ("wrote " ++ toString scan.cases.length ++ " test cases to " ++ path)]

/-- Writes a test harness, or lists the tests. Without either a path or a list there is nothing to
do, which is found before any file is read. -/
def generateHarness (settings : Settings) (output : Option String) (listOnly : Bool)
    (files : List String) : Run Nat := do
  if !listOnly && output.isNone then throw .missingOutputPath
  else
    let scan ← Harness.discoverFiles settings.harness files
    let code ← showFailures scan.failures
    if listOnly then (listTests scan.cases).forM fun name => Run.tell (.output name)
    else output.forM fun path => writeHarness settings scan path
    return code

/-- Lists the declarations of files. -/
def listDeclarations (files : List String) : Run Nat := do
  let failures ← files.zipIdx.mapM fun (path, fileId) => listFile path fileId
  showFailures (failures.filterMap id)

/-- Does what an invocation asks for and gives the exit code. -/
def Invocation.perform (i : Invocation) : Run Nat := do
  let settings ← loadSettings i.settingsPath
  match i.command with
  | .generateWrappers src dest => generateWrappers settings src dest
  | .generateHarness output listOnly files => generateHarness settings output listOnly files
  | .listDeclarations files => listDeclarations files

/-! ### The whole program -/

/-- What the program leaves behind. -/
structure Outcome where
  code : Nat
  stdout : String
  stderr : String
  disk : Disk

/-- The lines on the output. -/
def stdoutOf (events : List Event) : String :=
  String.join <| events.map fun
    | .output line => line ++ "\n"
    | _ => ""

/-- The text on the error stream: diagnostics, and the log records that the filter shows. -/
def stderrOf (filter : LogFilter) (events : List Event) : String :=
  String.join <| events.map fun
    | .log r => if filter.shows r then r.line ++ "\n" else ""
    | .diagnostic text => text
    | .output _ => ""

/-- The version of the program. -/
def versionText : String := "declscan 0.1.0\n"

/-- The usage of the program. -/
def usageText : String :=
  String.join <| List.map (· ++ "\n")
    ["Structural C/C++ declaration scanner and wrapper/test-harness generator",
      "",
      "Usage: declscan [OPTIONS] <COMMAND>",
      "",
      "Commands:",
      "  generate-wrappers <SRC_DIR> <DEST_DIR>",
      "  generate-harness [--output <OUTPUT>] [--list-tests] <TEST_FILES>...",
      "  list-declarations <FILES>...",
      "",
      "Options:",
      "      --no-color         Disable colored error output",
      "  -v, --verbose          Verbose logging",
      "      --config <CONFIG>  Path to a declscan.toml configuration file",
      "  -h, --help             Print help",
      "  -V, --version          Print version"]

/-- Runs the program with its arguments on a disk. A log filter that is given wins over the
verbosity that the arguments ask for. -/
def runProgram (args : List String) (logSpec : Option String) (disk : Disk) : Outcome :=
  match Arguments.parse args with
  | .error .version => ⟨0, versionText, "", disk⟩
  | .error .help => ⟨0, usageText, "", disk⟩
  | .error .usage => ⟨2, "", usageText, disk⟩
  | .ok i =>
    let (filter, errors) := LogFilter.parse (logSpec.getD (if i.verbose then "debug" else "warn"))
    let warnings := String.join (errors.map fun e => "warning: " ++ e ++ ", ignoring it\n")
    match (i.perform.run.run ⟨disk, []⟩).run with
    | (.ok code, w) => ⟨code, stdoutOf w.events, warnings ++ stderrOf filter w.events, w.disk⟩
    | (.error e, w) =>
      ⟨1, stdoutOf w.events,
        warnings ++ stderrOf filter w.events ++ "error: " ++ e.message ++ "\n", w.disk⟩

end HeaderSurvey
