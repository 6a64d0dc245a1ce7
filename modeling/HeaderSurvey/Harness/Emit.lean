import HeaderSurvey.Harness.Template
import HeaderSurvey.Settings.Basic
import HeaderSurvey.TestCase.Basic
import HeaderSurvey.Text.Sorted

/-!
# The text of a test harness

A harness includes each file that declares a test case once, in the order of the paths, and
registers the test cases in their own order. Placeholders are filled one after the other, so a
value that holds the mark of a later placeholder is filled as well.
-/

namespace HeaderSurvey.Harness

/-- A path with slashes for backslashes, as an include wants it. -/
def includePath (path : String) : String :=
  String.ofList (Text.replaceChar '\\' '/' path.toList)

/-- The include lines of the files that declare the test cases. -/
def includeBlock (cases : List TestCase) : List Char :=
  let paths := Text.sortOnce (cases.map fun c => includePath c.decl.path)
  joinLines (paths.map fun path => "#include \"" ++ path ++ "\"")

/-- The registration of a test case. -/
def registration (c : TestCase) : List Char :=
  let members := c.methods.map fun m => "&" ++ c.decl.name ++ "::" ++ m.name
  let names := c.methods.map fun m => "\"" ++ m.qualifiedName ++ "\""
  fill "@NAMES@" (Text.join [',', ' '] (names.map String.toList)) <|
    fill "@MEMBERS@" (Text.join [',', ' '] (members.map String.toList)) <|
      fill "@CLASS@" c.decl.name.toList registrationTemplate

/-- The harness up to the main function. -/
def preamble (settings : HarnessSettings) (cases : List TestCase) : List Char :=
  fill "@INCLUDES@" (includeBlock cases) <|
    fill "@RUNTIME_HEADER@" settings.runtimeHeader.toList preambleTemplate

/-- The main function of the harness. -/
def mainFunction (settings : HarnessSettings) (cases : List TestCase) : List Char :=
  if cases.isEmpty then emptyMain
  else
    fill "@REGISTRATIONS@" (Text.join ['\n'] (cases.map registration)) <|
      fill "@RUNNER_TYPE@" settings.runnerType.toList mainTemplate

/-- The whole harness for the test cases. -/
def emit (settings : HarnessSettings) (cases : List TestCase) : String :=
  String.ofList (preamble settings cases ++ mainFunction settings cases)

end HeaderSurvey.Harness
