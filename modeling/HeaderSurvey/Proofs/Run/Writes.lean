import HeaderSurvey.Proofs.Disk.Write
import HeaderSurvey.Run.Files

/-!
# What a run writes

A run that only reads files, logs and writes generated files does to the disk what putting these
files one after another does, and it ends in a fault just when they cannot all be put
(`Run.Writes`).  Runs one after another write what they write, in order (`Writes.bind`).
-/

namespace HeaderSurvey
namespace Run

variable {α β : Type} {w : World} {outputs outputs' : List (String × List UInt8)}
  {Q : α → Prop}

/-- How a run ends, and the world that it leaves. -/
def result (m : Run α) (w : World) : Except Fault α × World :=
  (m.run.run w).run

theorem result_pure (a : α) (w : World) : result (pure a : Run α) w = (.ok a, w) :=
  rfl

theorem result_bind (m : Run α) (f : α → Run β) (w : World) :
    result (m >>= f) w =
      match result m w with
      | (.ok a, w') => result (f a) w'
      | (.error fault, w') => (.error fault, w') := by
  change (ExceptT.bindCont f (result m w).1).run (result m w).2 = _
  rcases result m w with ⟨fault | a, w'⟩
  · rfl
  · rfl

/-- A run gives what its last part gives. -/
theorem exists_of_result_bind {m : Run α} {f : α → Run β} {b : β} {w'' : World}
    (h : result (m >>= f) w = (.ok b, w'')) :
    ∃ a w', result m w = (.ok a, w') ∧ result (f a) w' = (.ok b, w'') := by
  rw [result_bind] at h
  rcases hresult : result m w with ⟨fault | a, w'⟩
  · rw [hresult] at h
    cases h
  · rw [hresult] at h
    exact ⟨a, w', rfl, h⟩

/-- Whatever value the run gives, `Q` holds of it. -/
def Gives (m : Run α) (Q : α → Prop) : Prop :=
  ∀ w a w', result m w = (.ok a, w') → Q a

theorem gives_pure {a : α} (h : Q a) : Gives (pure a : Run α) Q := by
  intro w b w' hresult
  rw [result_pure] at hresult
  cases hresult
  exact h

theorem gives_throw (fault : Fault) : Gives (throw fault : Run α) Q := by
  intro w a w' hresult
  cases hresult

theorem Gives.bind {m : Run α} {f : α → Run β} {P : α → Prop} {Q : β → Prop} (hm : Gives m P)
    (hf : ∀ a, P a → Gives (f a) Q) : Gives (m >>= f) Q := by
  intro w b w'' hresult
  obtain ⟨a, w', hfirst, hrest⟩ := exists_of_result_bind hresult
  exact hf a (hm w a w' hfirst) w' b w'' hrest

/-- What is said of the last part of a run, whatever went before. -/
theorem gives_bind {m : Run α} {f : α → Run β} {Q : β → Prop} (hf : ∀ a, Gives (f a) Q) :
    Gives (m >>= f) Q :=
  Gives.bind (P := fun _ => True) (fun _ _ _ _ => trivial) fun a _ => hf a

/-- What each step of a run over a list adds to the state, the run adds. -/
theorem gives_foldlM {σ : Type} {R : σ → σ → Prop} {f : σ → α → Run σ} (hrefl : ∀ s, R s s)
    (htrans : ∀ {s t u}, R s t → R t u → R s u) (hstep : ∀ s x, Gives (f s x) (R s))
    (xs : List α) (s : σ) : Gives (xs.foldlM f s) (R s) := by
  induction xs generalizing s with
  | nil => exact gives_pure (hrefl s)
  | cons x xs ih =>
    rw [List.foldlM_cons]
    refine (hstep s x).bind fun t hst => ?_
    exact fun w u w' hresult => htrans hst (ih t w u w' hresult)

/-- The run puts the files one after another and gives a value for which `Q` holds.  If they cannot
all be put, it ends in a fault. -/
structure Writes (m : Run α) (w : World) (outputs : List (String × List UInt8))
    (Q : α → Prop) : Prop where
  of_ok : ∀ {a w'}, result m w = (.ok a, w') → w.disk.placeAll outputs = some w'.disk ∧ Q a
  of_error : ∀ {fault w'}, result m w = (.error fault, w') → w.disk.placeAll outputs = none

/-- A run that gives a value, and the disk that it leaves. -/
theorem Writes.of_result {m : Run α} {a : α} {w' : World} (hresult : result m w = (.ok a, w'))
    (hplace : w.disk.placeAll outputs = some w'.disk) (h : Q a) : Writes m w outputs Q := by
  refine ⟨fun hok => ?_, fun herror => ?_⟩
  · rw [hresult] at hok
    cases hok
    exact ⟨hplace, h⟩
  · rw [hresult] at herror
    cases herror

theorem Writes.pure {a : α} (h : Q a) : Writes (pure a : Run α) w [] Q :=
  Writes.of_result (result_pure a w) rfl h

theorem Writes.mono {m : Run α} {P : α → Prop} (h : Writes m w outputs P)
    (hPQ : ∀ a, P a → Q a) : Writes m w outputs Q :=
  ⟨fun hok => (h.of_ok hok).imp_right (hPQ _), h.of_error⟩

/-- A run that ends like another one writes what that one writes. -/
theorem Writes.congr {m m' : Run α} (h : Writes m' w outputs Q) (heq : result m w = result m' w) :
    Writes m w outputs Q := by
  refine ⟨fun hok => ?_, fun herror => ?_⟩
  · rw [heq] at hok
    exact h.of_ok hok
  · rw [heq] at herror
    exact h.of_error herror

/-- What two runs write one after the other. -/
theorem Writes.bind {m : Run α} {f : α → Run β} {P : α → Prop} {Q : β → Prop}
    (hm : Writes m w outputs P)
    (hf : ∀ a w', P a → w.disk.placeAll outputs = some w'.disk → Writes (f a) w' outputs' Q) :
    Writes (m >>= f) w (outputs ++ outputs') Q := by
  rcases hresult : result m w with ⟨fault | a, w'⟩
  · have hbind : result (m >>= f) w = (.error fault, w') := by rw [result_bind, hresult]
    refine ⟨fun hok => ?_, fun _ => ?_⟩
    · rw [hbind] at hok
      cases hok
    · rw [Disk.placeAll_append, hm.of_error hresult]
      rfl
  · have hbind : result (m >>= f) w = result (f a) w' := by rw [result_bind, hresult]
    obtain ⟨hplace, hP⟩ := hm.of_ok hresult
    have hrest := hf a w' hP hplace
    refine ⟨fun hok => ?_, fun herror => ?_⟩
    · rw [hbind] at hok
      rw [Disk.placeAll_append, hplace, Option.bind_some]
      exact hrest.of_ok hok
    · rw [hbind] at herror
      rw [Disk.placeAll_append, hplace, Option.bind_some]
      exact hrest.of_error herror

/-- A run in front that writes nothing. -/
theorem Writes.bind_nil {m : Run α} {f : α → Run β} {P : α → Prop} {Q : β → Prop}
    (hm : Writes m w [] P)
    (hf : ∀ a w', P a → w'.disk = w.disk → Writes (f a) w' outputs' Q) :
    Writes (m >>= f) w outputs' Q :=
  hm.bind fun a w' hP hdisk => hf a w' hP (Option.some.inj hdisk).symm

/-- A run behind that writes nothing. -/
theorem Writes.bind_pure {m : Run α} {f : α → Run β} {P : α → Prop} {Q : β → Prop}
    (hm : Writes m w outputs P) (hf : ∀ a w', P a → Writes (f a) w' [] Q) :
    Writes (m >>= f) w outputs Q := by
  have h := hm.bind fun a w' hP _ => hf a w' hP
  rwa [List.append_nil] at h

/-- A run gives a value if all its files can be put. -/
theorem Writes.exists_result {m : Run α} {d : Disk} (h : Writes m w outputs Q)
    (hplace : w.disk.placeAll outputs = some d) :
    ∃ a w', result m w = (.ok a, w') ∧ w'.disk = d ∧ Q a := by
  rcases hresult : result m w with ⟨fault | a, w'⟩
  · rw [h.of_error hresult] at hplace
    cases hplace
  · obtain ⟨hsome, hQ⟩ := h.of_ok hresult
    rw [hsome] at hplace
    exact ⟨a, w', rfl, Option.some.inj hplace, hQ⟩

/-! ### The steps of a run -/

theorem writes_log (records : List Record) : Writes (log records) w [] fun _ => True :=
  Writes.of_result rfl rfl trivial

theorem writes_disk : Writes disk w [] (· = w.disk) :=
  Writes.of_result rfl rfl rfl

/-- A file that can be read is loaded, and a record says so if its bytes are no text. -/
theorem result_loadUnit {path : String} {bytes : List UInt8} (fileId : Nat)
    (h : w.disk.read path.toList = .ok bytes) :
    result (loadUnit path fileId) w =
      (.ok (SourceUnit.ofBytes path fileId bytes),
        { w with events := w.events ++ (SourceUnit.loadRecords path bytes).map Event.log }) := by
  have hread : result (readFile path) w = (.ok bytes, w) := by
    rw [readFile, result_bind]
    change result (orFault _ (w.disk.read path.toList)) w = _
    rw [h]
    rfl
  rw [loadUnit, result_bind, hread]
  rfl

theorem writes_loadUnit {path : String} {bytes : List UInt8} (fileId : Nat)
    (h : w.disk.read path.toList = .ok bytes) :
    Writes (loadUnit path fileId) w [] (· = SourceUnit.ofBytes path fileId bytes) :=
  Writes.of_result (result_loadUnit fileId h) rfl rfl

/-- Making the directories above a path leaves the disk with them. -/
theorem result_makeParents (path : String) (w : World) :
    match w.disk.ensureParents path with
    | (.ok (), d) => result (makeParents path) w = (.ok (), { w with disk := d })
    | (.error _, _) => ∃ fault w', result (makeParents path) w = (.error fault, w') := by
  rw [Disk.ensureParents, makeParents]
  cases hparent : Path.parent? path.toList with
  | none => rfl
  | some parent =>
    cases parent with
    | nil => rfl
    | cons c parent =>
      have hdisk : result disk w = (.ok w.disk, w) := rfl
      simp only
      rw [result_bind, hdisk]
      rcases hmade : w.disk.ensureDirs (c :: parent) with ⟨cause | ⟨⟩, d⟩
      · simp only [hmade]
        exact ⟨_, _, rfl⟩
      · simp only [hmade]
        rfl

/-- Writing a generated file leaves the disk with it, and a record of it. -/
theorem result_writeOutput (path contents : String) (w : World) :
    match w.disk.place path (Utf8.encode contents) with
    | some d => ∃ record,
      result (writeOutput path contents) w = (.ok (), ⟨d, w.events ++ [.log record]⟩)
    | none => ∃ fault w', result (writeOutput path contents) w = (.error fault, w') := by
  have hparents := result_makeParents path w
  rw [Disk.place, writeOutput, result_bind]
  rcases hmade : w.disk.ensureParents path with ⟨cause | ⟨⟩, d⟩
  · rw [hmade] at hparents
    obtain ⟨fault, w', hresult⟩ := hparents
    rw [hresult]
    exact ⟨fault, w', rfl⟩
  · rw [hmade] at hparents
    have hresult : result (makeParents path) w = (.ok (), { w with disk := d }) := hparents
    have hdisk : result disk { w with disk := d } = (.ok d, { w with disk := d }) := rfl
    rw [hresult]
    simp only
    rw [result_bind, hdisk]
    simp only
    rw [result_bind]
    cases hwrite : d.write path.toList (Utf8.encode contents) with
    | error cause => exact ⟨_, _, rfl⟩
    | ok d' => exact ⟨_, rfl⟩

/-- A generated file is put at its path. -/
theorem writes_writeOutput (path contents : String) :
    Writes (writeOutput path contents) w [(path, Utf8.encode contents)] fun _ => True := by
  have hplace : w.disk.placeAll [(path, Utf8.encode contents)] =
      w.disk.place path (Utf8.encode contents) := by
    rw [Disk.placeAll_cons]
    cases w.disk.place path (Utf8.encode contents) <;> rfl
  have hresult := result_writeOutput path contents w
  cases hput : w.disk.place path (Utf8.encode contents) with
  | none =>
    rw [hput] at hresult
    obtain ⟨fault, w', hfail⟩ := hresult
    refine ⟨fun hok => ?_, fun _ => hplace.trans hput⟩
    rw [hfail] at hok
    cases hok
  | some d =>
    rw [hput] at hresult
    obtain ⟨record, hok⟩ := hresult
    exact Writes.of_result hok (hplace.trans hput) trivial

end Run
end HeaderSurvey
