import HeaderSurvey.CommandLine.Commands
import HeaderSurvey.Proofs.Run.Writes

/-!
# What a run prints

`Run.Prints m w lines d Q` says that a run ends with a value for which `Q` holds, leaves the disk `d`
and prints the lines, in order; what it logs and the diagnostics it shows do not count.  It is a
statement about success: nothing is assumed to go well but what the hypotheses say.  Runs one after
another print their lines one after another (`Prints.bind`).
-/

namespace HeaderSurvey

/-- The lines of output among what has been shown. -/
def outputLines (events : List Event) : List String :=
  events.filterMap fun
    | .output line => some line
    | _ => none

/-- The lines as they are printed. -/
def printed (lines : List String) : String :=
  String.join (lines.map (· ++ "\n"))

theorem outputLines_append (events events' : List Event) :
    outputLines (events ++ events') = outputLines events ++ outputLines events' :=
  List.filterMap_append ..

theorem stdoutOf_eq (events : List Event) : stdoutOf events = printed (outputLines events) := by
  rw [stdoutOf, printed, ← String.toList_inj, String.toList_join, String.toList_join, outputLines]
  induction events with
  | nil => rfl
  | cons event events ih =>
    cases event with
    | output line =>
      rw [List.map_cons, List.flatMap_cons, ih, List.filterMap_cons, List.map_cons,
        List.flatMap_cons]
    | log record | diagnostic text =>
      rw [List.map_cons, List.flatMap_cons, ih, List.filterMap_cons]
      rfl

namespace Run

variable {α β : Type} {m : Run α} {w : World} {lines lines' : List String} {d e : Disk}

/-- The run ends with a value for which `Q` holds, leaves the disk and prints the lines. -/
def Prints (m : Run α) (w : World) (lines : List String) (d : Disk) (Q : α → Prop) : Prop :=
  ∃ a w', result m w = (.ok a, w') ∧ w'.disk = d ∧
    outputLines w'.events = outputLines w.events ++ lines ∧ Q a

/-- What two runs print one after the other. -/
theorem Prints.bind {f : α → Run β} {P : α → Prop} {Q : β → Prop} (hm : Prints m w lines d P)
    (hf : ∀ a w', w'.disk = d → P a → Prints (f a) w' lines' e Q) :
    Prints (m >>= f) w (lines ++ lines') e Q := by
  obtain ⟨a, w', hresult, hdisk, hlines, ha⟩ := hm
  obtain ⟨b, w'', hresult', hdisk', hlines', hb⟩ := hf a w' hdisk ha
  refine ⟨b, w'', ?_, hdisk', ?_, hb⟩
  · rw [result_bind, hresult]
    exact hresult'
  · rw [hlines', hlines, List.append_assoc]

/-- A run in front that prints nothing. -/
theorem Prints.bind_silent {f : α → Run β} {P : α → Prop} {Q : β → Prop} (hm : Prints m w [] d P)
    (hf : ∀ a w', w'.disk = d → P a → Prints (f a) w' lines' e Q) :
    Prints (m >>= f) w lines' e Q :=
  hm.bind hf

/-- A run in front that prints all there is to print. -/
theorem Prints.bind_pure {a : β} {P : α → Prop} {Q : β → Prop} (hm : Prints m w lines d P)
    (ha : Q a) : Prints (m >>= fun _ => Pure.pure a) w lines d Q := by
  have hpure : ∀ w' : World, w'.disk = d → Prints (Pure.pure a : Run β) w' [] d Q :=
    fun w' hdisk => ⟨a, w', result_pure a w', hdisk, (List.append_nil _).symm, ha⟩
  have h := hm.bind fun _ w' hdisk _ => hpure w' hdisk
  rwa [List.append_nil] at h

theorem prints_pure {a : α} {Q : α → Prop} (hdisk : w.disk = d) (ha : Q a) :
    Prints (pure a : Run α) w [] d Q :=
  ⟨a, w, result_pure a w, hdisk, (List.append_nil _).symm, ha⟩

/-! ### The steps of a run -/

theorem prints_tell (event : Event) (hdisk : w.disk = d) :
    Prints (tell event) w (outputLines [event]) d fun _ => True :=
  ⟨(), { w with events := w.events ++ [event] }, rfl, hdisk, outputLines_append _ _, trivial⟩

theorem prints_log (records : List Record) (hdisk : w.disk = d) :
    Prints (log records) w [] d fun _ => True := by
  refine ⟨(), { w with events := w.events ++ records.map Event.log }, rfl, hdisk, ?_, trivial⟩
  rw [outputLines_append]
  congr 1
  rw [outputLines, List.filterMap_map, List.filterMap_eq_nil_iff]
  intro record _
  rfl

theorem prints_loadUnit {path : String} {bytes : List UInt8} (fileId : Nat)
    (hread : d.read path.toList = .ok bytes) (hdisk : w.disk = d) :
    Prints (loadUnit path fileId) w [] d (· = SourceUnit.ofBytes path fileId bytes) := by
  have hfile : Prints (readFile path) w [] d (· = bytes) := by
    refine ⟨bytes, w, ?_, hdisk, (List.append_nil _).symm, rfl⟩
    rw [readFile, result_bind]
    change result (orFault _ (w.disk.read path.toList)) w = _
    rw [hdisk, hread]
    rfl
  rw [loadUnit]
  refine hfile.bind_silent fun b w' hdisk' hb => ?_
  subst hb
  exact (prints_log _ hdisk').bind_pure rfl

theorem prints_writeOutput {path contents : String}
    (hplace : d.place path (Utf8.encode contents) = some e) (hdisk : w.disk = d) :
    Prints (writeOutput path contents) w [] e fun _ => True := by
  have hresult := result_writeOutput path contents w
  rw [hdisk, hplace] at hresult
  obtain ⟨record, hok⟩ := hresult
  refine ⟨(), _, hok, rfl, ?_, trivial⟩
  rw [outputLines_append]
  rfl

/-! ### Runs over lists -/

/-- Runs that print nothing and change nothing, one for each element of a list. -/
theorem prints_mapM {γ : Type} {f : γ → Run β} {g : γ → β} {xs : List γ}
    (h : ∀ x ∈ xs, ∀ w : World, w.disk = d → Prints (f x) w [] d (· = g x)) (hdisk : w.disk = d) :
    Prints (xs.mapM f) w [] d (· = xs.map g) := by
  induction xs generalizing w with
  | nil =>
    rw [List.mapM_nil]
    exact prints_pure hdisk rfl
  | cons x xs ih =>
    obtain ⟨hx, hxs⟩ := List.forall_mem_cons.mp h
    rw [List.mapM_cons]
    refine (hx w hdisk).bind_silent fun b w₁ hdisk₁ hb => ?_
    refine (ih hxs hdisk₁).bind_silent fun bs w₂ hdisk₂ hbs => ?_
    exact prints_pure hdisk₂ (by rw [hb, hbs, List.map_cons])

/-- Something shown for each element of a list. -/
theorem prints_forM {γ : Type} (f : γ → Event) (xs : List γ) (hdisk : w.disk = d) :
    Prints (xs.forM fun x => tell (f x)) w (outputLines (xs.map f)) d fun _ => True := by
  induction xs generalizing w with
  | nil => exact prints_pure hdisk trivial
  | cons x xs ih =>
    have hlines : outputLines ((x :: xs).map f) = outputLines [f x] ++ outputLines (xs.map f) := by
      rw [← outputLines_append]
      rfl
    rw [hlines]
    exact (prints_tell (f x) hdisk).bind fun _ w' hdisk' _ => ih hdisk'

end Run
end HeaderSurvey
