import HeaderSurvey.CommandLine.Commands
import HeaderSurvey.Proofs.Declaration.Failure
import HeaderSurvey.Proofs.Run.Quiet

/-!
# How failures are shown

A failure is shown about the file that it adds to the table, so it does not matter which number its
error came with (`ofError?_add`).  An error that lies in its text has a diagnostic
(`exists_diagnostic`), and an error of parsing lies there, between two characters at both ends
(`SourceUnit.keyword_of_parse_eq_error`).  So each failure is shown once, in order, and their number
behind them (`result_showFailures`).
-/

namespace HeaderSurvey

/-! ### The error of a text -/

/-- The stretch lies in the text, and begins and ends between two characters of it. -/
structure Span.IsIn (s : Span) (text : List Char) : Prop where
  start_le_stop : s.start ≤ s.stop
  stop_le : s.stop ≤ Text.byteLength text
  start_boundary : Text.IsBoundary text s.start
  stop_boundary : Text.IsBoundary text s.stop

theorem SourceLine.containing?_ne_none (text : List Char) (offset : Nat) :
    SourceLine.containing? (SourceLine.ofText text) offset ≠ none := by
  -- the first line begins at or before every offset
  obtain ⟨line, lines, hlines⟩ := List.exists_cons_of_ne_nil (Text.splitBy_ne_nil (· = '\n') text)
  rw [containing?, ofText, hlines, numberFrom, List.filter_cons_of_pos (by simp)]
  simp

/-- Every error has a diagnostic in every file. -/
theorem exists_diagnostic (file : SourceFile) (e : UnclosedBlock) :
    ∃ d, Diagnostic.ofFile? file e = some d := by
  obtain ⟨first, hfirst⟩ := Option.ne_none_iff_exists'.mp
    (SourceLine.containing?_ne_none file.text.toList e.keyword.start)
  obtain ⟨last, hlast⟩ := Option.ne_none_iff_exists'.mp
    (SourceLine.containing?_ne_none file.text.toList e.keyword.stop)
  rw [Diagnostic.ofFile?, hfirst, hlast]
  exact ⟨_, rfl⟩

/-! ### The table of files -/

/-- The file of a failure, as the table has it. -/
def ScanFailure.file (f : ScanFailure) : SourceFile :=
  ⟨f.unit.path, f.unit.text⟩

/-- An error is shown in the file that the table has under its number. -/
theorem ofError?_of_getElem? {files : FileTable} {fileId : Nat} {file : SourceFile}
    (h : files[fileId]? = some file) (e : UnclosedBlock) :
    Diagnostic.ofError? files { e with fileId := fileId } = Diagnostic.ofFile? file e := by
  rw [Diagnostic.ofError?]
  dsimp only
  rw [h]
  rfl

/-- An error that gets the number of the file that is added is shown in this file, whatever number
it came with. -/
theorem ofError?_add (files : FileTable) (file : SourceFile) (e : UnclosedBlock) :
    Diagnostic.ofError? (files.add file).1 { e with fileId := (files.add file).2 } =
      Diagnostic.ofFile? file e :=
  ofError?_of_getElem? List.getElem?_concat_length e

/-! ### What is shown -/

/-- The texts that show the failures, each in its own file. -/
def failureTexts (failures : List ScanFailure) : List String :=
  failures.filterMap fun f => (Diagnostic.ofFile? f.file f.error).map Diagnostic.render

theorem failureTexts_cons {f : ScanFailure} {diagnostic : Diagnostic}
    (h : Diagnostic.ofFile? f.file f.error = some diagnostic) (failures : List ScanFailure) :
    failureTexts (f :: failures) = diagnostic.render :: failureTexts failures := by
  rw [failureTexts, List.filterMap_cons, h]
  rfl

/-- The text behind the diagnostics. -/
def countText (n : Nat) : String :=
  "error: " ++ toString n ++ " file(s) could not be scanned\n"

/-- One failure is shown, and its file is in the table from then on. -/
theorem result_showFailure (files : FileTable) (f : ScanFailure) (w : World) :
    (showFailure files f).result w =
      (.ok (files ++ [f.file]),
        { w with events := w.events ++ (failureTexts [f]).map Event.diagnostic }) := by
  have hdiagnostic := ofError?_add files f.file f.error
  obtain ⟨d, hd⟩ := exists_diagnostic f.file f.error
  rw [hd] at hdiagnostic
  have hrun : showFailure files f =
      ((Diagnostic.ofError? (files.add f.file).1
        { f.error with fileId := (files.add f.file).2 }).forM fun d =>
          Run.tell (.diagnostic d.render)) >>= fun _ => pure (files ++ [f.file]) :=
    rfl
  rw [hrun, hdiagnostic, failureTexts_cons hd]
  rfl

theorem result_foldlM_showFailure (failures : List ScanFailure) (files : FileTable) (w : World) :
    Run.result (failures.foldlM showFailure files) w =
      (.ok (files ++ failures.map ScanFailure.file),
        { w with events := w.events ++ (failureTexts failures).map Event.diagnostic }) := by
  induction failures generalizing files w with
  | nil =>
    rw [List.foldlM_nil, Run.result_pure]
    simp [failureTexts]
  | cons f failures ih =>
    have htexts : failureTexts [f] ++ failureTexts failures = failureTexts (f :: failures) :=
      List.filterMap_append.symm
    rw [List.foldlM_cons, Run.result_bind, result_showFailure]
    dsimp only
    rw [ih, ← htexts, List.map_append, List.map_cons, List.append_assoc, List.append_assoc]
    rfl

/-- What is shown of failures: nothing where there are none, and else each of them and then their
number. -/
def failureReport (failures : List ScanFailure) : List String :=
  if failures.isEmpty then [] else failureTexts failures ++ [countText failures.length]

/-- **Failures are shown in order, with their number behind them**, and make the exit code one. -/
theorem result_showFailures (failures : List ScanFailure) (w : World) :
    (showFailures failures).result w =
      (.ok (if failures.isEmpty then 0 else 1),
        { w with events := w.events ++ (failureReport failures).map Event.diagnostic }) := by
  rw [showFailures, failureReport]
  split_ifs with hempty
  · rw [Run.result_pure, List.map_nil, List.append_nil]
  · rw [Run.result_bind, result_foldlM_showFailure]
    dsimp only
    rw [List.map_append, ← List.append_assoc]
    rfl

end HeaderSurvey
