import HeaderSurvey.Harness.Discover
import HeaderSurvey.Run.Files

/-!
# Test cases of files on disk

All files are read before any is parsed, so that a file that cannot be read ends the run at once.
-/

namespace HeaderSurvey.Harness

/-- Loads the files, numbered in order. -/
def loadFiles (paths : List String) : Run (List SourceUnit) :=
  paths.zipIdx.mapM fun (path, fileId) => Run.loadUnit path fileId

/-- Reads the files and finds the test cases. -/
def discoverFiles (settings : HarnessSettings) (paths : List String) : Run Scan := do
  let scan := discover settings (← loadFiles paths)
  Run.log scan.records
  return scan

end HeaderSurvey.Harness
