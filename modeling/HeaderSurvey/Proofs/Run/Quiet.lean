import HeaderSurvey.Proofs.Run.Writes

/-!
# Runs without diagnostics

`Run.Quiet m d Q` says of a run that begins on the disk `d`: if it gives a value, it has shown no
diagnostic, and `Q` holds of the value and of the disk that it leaves.  It is a statement about what
happens where no fault does.  Quiet runs one after another are quiet (`Quiet.bind`).
-/

namespace HeaderSurvey

/-- The diagnostics among what has been shown. -/
def diagnosticTexts (events : List Event) : List String :=
  events.filterMap fun
    | .diagnostic text => some text
    | _ => none

namespace Run

variable {α β : Type} {d : Disk} {P Q : α → Disk → Prop}

/-- A value of the run comes without a diagnostic, and `Q` holds of it and the disk behind it. -/
def Quiet (m : Run α) (d : Disk) (Q : α → Disk → Prop) : Prop :=
  ∀ w a w', w.disk = d → result m w = (.ok a, w') →
    diagnosticTexts w'.events = diagnosticTexts w.events ∧ Q a w'.disk

theorem Quiet.bind {m : Run α} {f : α → Run β} {R : β → Disk → Prop} (hm : Quiet m d P)
    (hf : ∀ a e, P a e → Quiet (f a) e R) : Quiet (m >>= f) d R := by
  intro w b w'' hdisk hresult
  obtain ⟨a, w', hfirst, hrest⟩ := exists_of_result_bind hresult
  obtain ⟨hsame, ha⟩ := hm w a w' hdisk hfirst
  obtain ⟨hsame', hb⟩ := hf a w'.disk ha w' b w'' rfl hrest
  exact ⟨hsame'.trans hsame, hb⟩

theorem Quiet.mono {m : Run α} (h : Quiet m d P) (hPQ : ∀ a e, P a e → Q a e) : Quiet m d Q := by
  intro w a w' hdisk hresult
  exact (h w a w' hdisk hresult).imp_right (hPQ a w'.disk)

end Run
end HeaderSurvey
