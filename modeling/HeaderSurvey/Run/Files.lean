import HeaderSurvey.Declaration.Basic
import HeaderSurvey.Run.Basic

/-!
# Reading and writing files in a run

Source files are read whatever bytes they hold; settings only if they are a text. A file is written
in one piece, after the directories above it have been made.
-/

namespace HeaderSurvey

/-- The unit of a file with these bytes. -/
def SourceUnit.ofBytes (path : String) (fileId : Nat) (bytes : List UInt8) : SourceUnit :=
  ⟨path, Utf8.decodeLossy bytes, fileId⟩

/-- What is logged when a file with these bytes is loaded. -/
def SourceUnit.loadRecords (path : String) (bytes : List UInt8) : List Record :=
  if Utf8.isValid bytes then []
  else [⟨.warn, "declscan", path ++ " is not valid UTF-8; decoding lossily"⟩]

namespace Run

/-- The bytes of a file. -/
def readFile (path : String) : Run (List UInt8) := do
  orFault (.read path) ((← disk).read path.toList)

/-- The source unit of a file. -/
def loadUnit (path : String) (fileId : Nat) : Run SourceUnit := do
  let bytes ← readFile path
  log (SourceUnit.loadRecords path bytes)
  return .ofBytes path fileId bytes

/-- The text of a file that has to be one. -/
def readText (path : String) : Run String := do
  let bytes ← readFile path
  if Utf8.isValid bytes then return Utf8.decodeLossy bytes
  else throw (.read path .invalidUtf8)

/-- Makes the directory in which a path is to be written, and the ones above it. -/
def makeParents (path : String) : Run Unit := do
  match Path.parent? path.toList with
  | none | some [] => return
  | some parent =>
    let (result, d) := (← disk).ensureDirs parent
    modify fun w => { w with disk := d }
    orFault (.write (String.ofList parent)) result

/-- Writes a generated file, after the directories above it have been made. -/
def writeOutput (path contents : String) : Run Unit := do
  makeParents path
  let bytes := Utf8.encode contents
  let d ← orFault (.write path) ((← disk).write path.toList bytes)
  modify fun w => { w with disk := d }
  log [⟨.debug, "declgen",
    "wrote " ++ path ++ " (" ++ toString bytes.length ++ " bytes)"⟩]

end Run
end HeaderSurvey
