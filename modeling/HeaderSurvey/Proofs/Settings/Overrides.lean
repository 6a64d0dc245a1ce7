import HeaderSurvey.Proofs.Toml.Sections
import HeaderSurvey.Settings.Decode
import Mathlib.Data.List.Nodup

/-!
# Overriding settings

A document gives values for some of the settings, and the others keep their defaults.  The sections
and the settings in each can stand in any order, since each sets a field of its own
(`setWrapper_comm`, `setHarness_comm`); and a name that is no setting is a fault wherever it stands
and whatever comes behind it, because no step of the reading takes a name away.  Both together are
`ofToml_overrides`.
-/

namespace HeaderSurvey

open Toml

/-! ### Overrides -/

/-- Values for some of the settings. -/
structure Overrides where
  symbolPrefix : Option String := none
  umbrellaHeader : Option String := none
  headerExtensions : Option (List String) := none
  rootNames : Option (List String) := none
  testPrefix : Option String := none
  runtimeHeader : Option String := none
  runnerType : Option String := none

namespace Overrides

/-- The settings with these values, and with the defaults where there is none. -/
def settings (o : Overrides) : Settings where
  wrappers :=
    { symbolPrefix := o.symbolPrefix.getD "smlt_"
      umbrellaHeader := o.umbrellaHeader.getD "simulant/simulant.h"
      headerExtensions := o.headerExtensions.getD ["h"] }
  harness :=
    { rootNames := o.rootNames.getD ["TestCase", "SimulantTestCase"]
      testPrefix := o.testPrefix.getD "test_"
      runtimeHeader := o.runtimeHeader.getD "simulant/test.h"
      runnerType := o.runnerType.getD "smlt::test::TestRunner" }

/-- What is said of wrappers. -/
def wrapperTexts (o : Overrides) : List (String × Content) :=
  (o.symbolPrefix.map fun s => ("symbol_prefix", Content.text s)).toList ++
    ((o.umbrellaHeader.map fun s => ("umbrella_header", Content.text s)).toList ++
      (o.headerExtensions.map fun ss => ("header_extensions", Content.texts ss)).toList)

/-- What is said of harnesses. -/
def harnessTexts (o : Overrides) : List (String × Content) :=
  (o.rootNames.map fun ss => ("root_names", Content.texts ss)).toList ++
    ((o.testPrefix.map fun s => ("test_prefix", Content.text s)).toList ++
      ((o.runtimeHeader.map fun s => ("runtime_header", Content.text s)).toList ++
        (o.runnerType.map fun s => ("runner_type", Content.text s)).toList))

/-- The sections say just what the overrides are: each section comes once, in any order, with its
settings in any order. A section of which nothing is said may be left out. -/
structure PresentedBy (o : Overrides) (secs : List SectionText) : Prop where
  once : (secs.map Prod.fst).Nodup
  texts : ∀ sec ∈ secs, sec.1 = "wrappers" ∧ sec.2.Perm o.wrapperTexts ∨
    sec.1 = "harness" ∧ sec.2.Perm o.harnessTexts
  wrappers : o.wrapperTexts ≠ [] → "wrappers" ∈ secs.map Prod.fst
  harness : o.harnessTexts ≠ [] → "harness" ∈ secs.map Prod.fst

end Overrides

/-! ### One entry after another -/

section Fold

variable {σ α β : Type} {f : σ → α → Decoded σ} {R : β → α → Prop} {g : σ → β → σ}

/-- Entries of which each makes a known change make them one after the other. -/
theorem foldlM_eq_ok {xs : List α} {ys : List β} (h : List.Forall₂ R ys xs)
    (hstep : ∀ y ∈ ys, ∀ x, R y x → ∀ s, f s x = .ok (g s y)) (s : σ) :
    xs.foldlM f s = .ok (ys.foldl g s) := by
  induction h generalizing s with
  | nil => rfl
  | @cons y x ys xs hyx _ ih =>
    rw [List.foldlM_cons, hstep y (List.mem_cons_self ..) x hyx s]
    exact ih (fun y hy => hstep y (List.mem_cons_of_mem _ hy)) (g s y)

/-- An entry that is always a fault makes the whole a fault. -/
theorem foldlM_eq_error {xs : List α} {x : α} (hx : x ∈ xs) (h : ∀ s, ∃ e, f s x = .error e)
    (s : σ) : ∃ e, xs.foldlM f s = .error e := by
  induction xs generalizing s with
  | nil => exact absurd hx List.not_mem_nil
  | cons y xs ih =>
    rw [List.foldlM_cons]
    rcases List.mem_cons.mp hx with rfl | hx
    · obtain ⟨e, he⟩ := h s
      exact ⟨e, by rw [he]; rfl⟩
    · cases hstep : f s y with
      | error e => exact ⟨e, rfl⟩
      | ok s' => exact ih hx s'

end Fold

/-! ### Settings in any order -/

/-- Sets the field of wrappers that is named. -/
def setWrapper (s : WrapperSettings) (p : String × Content) : WrapperSettings :=
  match p with
  | ("symbol_prefix", .text v) => { s with symbolPrefix := v }
  | ("umbrella_header", .text v) => { s with umbrellaHeader := v }
  | ("header_extensions", .texts vs) => { s with headerExtensions := vs }
  | _ => s

/-- Sets the field of harnesses that is named. -/
def setHarness (s : HarnessSettings) (p : String × Content) : HarnessSettings :=
  match p with
  | ("root_names", .texts vs) => { s with rootNames := vs }
  | ("test_prefix", .text v) => { s with testPrefix := v }
  | ("runtime_header", .text v) => { s with runtimeHeader := v }
  | ("runner_type", .text v) => { s with runnerType := v }
  | _ => s

/-- Different fields are set independently. -/
theorem setWrapper_comm (s : WrapperSettings) {p q : String × Content} (h : p.1 ≠ q.1) :
    setWrapper (setWrapper s p) q = setWrapper (setWrapper s q) p := by
  unfold setWrapper
  split <;> split <;> first | rfl | exact absurd rfl h

theorem setHarness_comm (s : HarnessSettings) {p q : String × Content} (h : p.1 ≠ q.1) :
    setHarness (setHarness s p) q = setHarness (setHarness s q) p := by
  unfold setHarness
  split <;> split <;> first | rfl | exact absurd rfl h

/-- Settings of different names give the same in any order. -/
theorem foldl_eq_of_perm {σ : Type} {g : σ → String × Content → σ} {ps qs : List (String × Content)}
    (hperm : ps.Perm qs) (hnodup : (qs.map Prod.fst).Nodup)
    (hcomm : ∀ s p q, p.1 ≠ q.1 → g (g s p) q = g (g s q) p) (s : σ) :
    ps.foldl g s = qs.foldl g s := by
  have hnodup' : (ps.map Prod.fst).Nodup := (hperm.map Prod.fst).nodup_iff.mpr hnodup
  refine hperm.foldl_eq' (fun p hp q hq s => ?_) s
  by_cases hpq : p = q
  · rw [hpq]
  · refine hcomm s p q fun hname => hpq ?_
    exact List.inj_on_of_nodup_map hnodup' hp hq hname

namespace Overrides

variable (o : Overrides)

theorem nodup_wrapperTexts : (o.wrapperTexts.map Prod.fst).Nodup := by
  obtain ⟨a, b, c, -, -, -, -⟩ := o
  cases a <;> cases b <;> cases c <;> simp [wrapperTexts]

theorem nodup_harnessTexts : (o.harnessTexts.map Prod.fst).Nodup := by
  obtain ⟨-, -, -, a, b, c, d⟩ := o
  cases a <;> cases b <;> cases c <;> cases d <;> simp [harnessTexts]

/-- All values together, and the defaults for the rest. -/
theorem foldl_wrapperTexts : o.wrapperTexts.foldl setWrapper {} = o.settings.wrappers := by
  obtain ⟨a, b, c, -, -, -, -⟩ := o
  cases a <;> cases b <;> cases c <;> rfl

theorem foldl_harnessTexts : o.harnessTexts.foldl setHarness {} = o.settings.harness := by
  obtain ⟨-, -, -, a, b, c, d⟩ := o
  cases a <;> cases b <;> cases c <;> cases d <;> rfl

end Overrides

/-! ### Decoding what is presented -/

theorem decodeStrings_eq_ok {outer e : Extent} {items : List Item} {ss : List String}
    (h : List.Forall₂ IsText (ss.map String.toList) items) :
    decodeStrings outer (.array e items) = .ok ss := by
  show items.mapM (decodeString e) = .ok ss
  induction ss generalizing items with
  | nil =>
    cases h
    rfl
  | cons s ss ih =>
    cases h with
    | cons hitem hitems =>
      obtain ⟨extent, rfl⟩ := hitem
      rw [List.mapM_cons, ih hitems, String.ofList_toList]
      rfl

theorem decodeString_eq_ok {outer : Extent} {item : Item} {s : String}
    (h : (Content.text s).Matches item) : decodeString outer item = .ok s := by
  obtain ⟨extent, rfl⟩ := h
  rw [String.ofList_toList]
  rfl

theorem mem_wrapperTexts {o : Overrides} {p : String × Content} (h : p ∈ o.wrapperTexts) :
    (∃ s, p = ("symbol_prefix", .text s)) ∨ (∃ s, p = ("umbrella_header", .text s)) ∨
      ∃ ss, p = ("header_extensions", .texts ss) := by
  simp only [Overrides.wrapperTexts, List.mem_append, Option.mem_toList,
    Option.map_eq_some_iff] at h
  rcases h with ⟨s, -, rfl⟩ | ⟨s, -, rfl⟩ | ⟨ss, -, rfl⟩
  · exact Or.inl ⟨s, rfl⟩
  · exact Or.inr (Or.inl ⟨s, rfl⟩)
  · exact Or.inr (Or.inr ⟨ss, rfl⟩)

theorem mem_harnessTexts {o : Overrides} {p : String × Content} (h : p ∈ o.harnessTexts) :
    (∃ ss, p = ("root_names", .texts ss)) ∨ (∃ s, p = ("test_prefix", .text s)) ∨
      (∃ s, p = ("runtime_header", .text s)) ∨ ∃ s, p = ("runner_type", .text s) := by
  simp only [Overrides.harnessTexts, List.mem_append, Option.mem_toList,
    Option.map_eq_some_iff] at h
  rcases h with ⟨ss, -, rfl⟩ | ⟨s, -, rfl⟩ | ⟨s, -, rfl⟩ | ⟨s, -, rfl⟩
  · exact Or.inl ⟨ss, rfl⟩
  · exact Or.inr (Or.inl ⟨s, rfl⟩)
  · exact Or.inr (Or.inr (Or.inl ⟨s, rfl⟩))
  · exact Or.inr (Or.inr (Or.inr ⟨s, rfl⟩))

/-- Each setting of wrappers sets its field. -/
theorem decodeEntry_wrapper {o : Overrides} {p : String × Content} {entry : Key × Item}
    (hp : p ∈ o.wrapperTexts) (hname : entry.1.name = p.1) (hitem : p.2.Matches entry.2)
    (s : WrapperSettings) : decodeEntry wrapperFields s entry = .ok (setWrapper s p) := by
  obtain ⟨⟨name, extent⟩, item⟩ := entry
  obtain rfl : name = p.1 := hname
  rcases mem_wrapperTexts hp with ⟨v, rfl⟩ | ⟨v, rfl⟩ | ⟨vs, rfl⟩
  · show (do return { s with symbolPrefix := ← decodeString extent item }) = _
    rw [decodeString_eq_ok hitem]
    rfl
  · show (do return { s with umbrellaHeader := ← decodeString extent item }) = _
    rw [decodeString_eq_ok hitem]
    rfl
  · obtain ⟨e, items, rfl, hitems⟩ := hitem
    show (do return { s with headerExtensions := ← decodeStrings extent (.array e items) }) = _
    rw [decodeStrings_eq_ok hitems]
    rfl

/-- Each setting of harnesses sets its field. -/
theorem decodeEntry_harness {o : Overrides} {p : String × Content} {entry : Key × Item}
    (hp : p ∈ o.harnessTexts) (hname : entry.1.name = p.1) (hitem : p.2.Matches entry.2)
    (s : HarnessSettings) : decodeEntry harnessFields s entry = .ok (setHarness s p) := by
  obtain ⟨⟨name, extent⟩, item⟩ := entry
  obtain rfl : name = p.1 := hname
  rcases mem_harnessTexts hp with ⟨vs, rfl⟩ | ⟨v, rfl⟩ | ⟨v, rfl⟩ | ⟨v, rfl⟩
  · obtain ⟨e, items, rfl, hitems⟩ := hitem
    show (do return { s with rootNames := ← decodeStrings extent (.array e items) }) = _
    rw [decodeStrings_eq_ok hitems]
    rfl
  · show (do return { s with testPrefix := ← decodeString extent item }) = _
    rw [decodeString_eq_ok hitem]
    rfl
  · show (do return { s with runtimeHeader := ← decodeString extent item }) = _
    rw [decodeString_eq_ok hitem]
    rfl
  · show (do return { s with runnerType := ← decodeString extent item }) = _
    rw [decodeString_eq_ok hitem]
    rfl

/-- A section on wrappers gives what is said of wrappers. -/
theorem decode_wrappers {o : Overrides} {ps : List (String × Content)} {entries : Entries}
    (hperm : ps.Perm o.wrapperTexts) (h : HoldsSettings ps entries) :
    entries.foldlM (decodeEntry wrapperFields) {} = .ok o.settings.wrappers := by
  rw [foldlM_eq_ok h fun p hp entry hentry =>
    decodeEntry_wrapper (hperm.mem_iff.mp hp) hentry.1 hentry.2]
  rw [foldl_eq_of_perm hperm o.nodup_wrapperTexts (fun s _ _ => setWrapper_comm s),
    o.foldl_wrapperTexts]

/-- A section on harnesses gives what is said of harnesses. -/
theorem decode_harness {o : Overrides} {ps : List (String × Content)} {entries : Entries}
    (hperm : ps.Perm o.harnessTexts) (h : HoldsSettings ps entries) :
    entries.foldlM (decodeEntry harnessFields) {} = .ok o.settings.harness := by
  rw [foldlM_eq_ok h fun p hp entry hentry =>
    decodeEntry_harness (hperm.mem_iff.mp hp) hentry.1 hentry.2]
  rw [foldl_eq_of_perm hperm o.nodup_harnessTexts (fun s _ _ => setHarness_comm s),
    o.foldl_harnessTexts]

/-- Sets the section that is named. -/
def Overrides.setSection (o : Overrides) (s : Settings) (sec : SectionText) : Settings :=
  if sec.1 = "wrappers" then { s with wrappers := o.settings.wrappers }
  else { s with harness := o.settings.harness }

/-- Each section sets what it is on. -/
theorem decodeEntry_section {o : Overrides} {sec : SectionText} {entry : Key × Item}
    (h : sec.1 = "wrappers" ∧ sec.2.Perm o.wrapperTexts ∨
      sec.1 = "harness" ∧ sec.2.Perm o.harnessTexts)
    (hentry : HoldsSection sec entry) (s : Settings) :
    decodeEntry sectionFields s entry = .ok (o.setSection s sec) := by
  obtain ⟨⟨name, extent⟩, item⟩ := entry
  obtain ⟨hname, e, within, hitem, hholds⟩ := hentry
  obtain rfl : item = .table e .header within := hitem
  obtain rfl : name = sec.1 := hname
  rcases h with ⟨hsec, hperm⟩ | ⟨hsec, hperm⟩
  · rw [Overrides.setSection, if_pos hsec, hsec]
    show (do return { s with
      wrappers := ← within.foldlM (decodeEntry wrapperFields) {} } : Decoded Settings) = _
    rw [decode_wrappers hperm hholds]
    rfl
  · have hne : sec.1 ≠ "wrappers" := by
      rw [hsec]
      decide
    rw [Overrides.setSection, if_neg hne, hsec]
    show (do return { s with
      harness := ← within.foldlM (decodeEntry harnessFields) {} } : Decoded Settings) = _
    rw [decode_harness hperm hholds]
    rfl

/-- The sections together set what they are on and leave the rest. -/
theorem foldl_setSection (o : Overrides) {secs : List SectionText}
    (h : ∀ sec ∈ secs, sec.1 = "wrappers" ∨ sec.1 = "harness") (s : Settings) :
    secs.foldl o.setSection s =
      { wrappers := if "wrappers" ∈ secs.map Prod.fst then o.settings.wrappers else s.wrappers
        harness := if "harness" ∈ secs.map Prod.fst then o.settings.harness else s.harness } := by
  induction secs generalizing s with
  | nil => simp
  | cons sec secs ih =>
    have hrest := ih (fun sec hsec => h sec (List.mem_cons_of_mem _ hsec))
    have hsec := h sec (List.mem_cons_self ..)
    obtain ⟨name, ps⟩ := sec
    rw [List.foldl_cons, hrest, List.map_cons]
    rcases hsec with rfl | rfl
    · have hharness : "harness" ∈ "wrappers" :: secs.map Prod.fst ↔ "harness" ∈ secs.map Prod.fst := by
        simp
      simp [if_congr hharness rfl rfl, Overrides.setSection]
    · have hwrappers : "wrappers" ∈ "harness" :: secs.map Prod.fst ↔ "wrappers" ∈ secs.map Prod.fst := by
        simp
      simp [if_congr hwrappers rfl rfl, Overrides.setSection]

/-- What sections present is what they are decoded to. -/
theorem ofEntries_of_presented {o : Overrides} {secs : List SectionText} {entries : Entries}
    (h : o.PresentedBy secs) (hentries : List.Forall₂ HoldsSection secs entries) :
    Settings.ofEntries entries = .ok o.settings := by
  rw [Settings.ofEntries, foldlM_eq_ok hentries fun sec hsec entry hentry =>
    decodeEntry_section (h.texts sec hsec) hentry]
  rw [foldl_setSection o fun sec hsec => (h.texts sec hsec).imp And.left And.left]
  -- a section that is not there has no values, so its settings are the defaults
  have hwrappers : (if "wrappers" ∈ secs.map Prod.fst then o.settings.wrappers else {}) =
      o.settings.wrappers := by
    split
    · rfl
    · next habsent =>
      have hnil : o.wrapperTexts = [] := not_not.mp fun hne => habsent (h.wrappers hne)
      rw [← o.foldl_wrapperTexts, hnil]
      rfl
  have hharness : (if "harness" ∈ secs.map Prod.fst then o.settings.harness else {}) =
      o.settings.harness := by
    split
    · rfl
    · next habsent =>
      have hnil : o.harnessTexts = [] := not_not.mp fun hne => habsent (h.harness hne)
      rw [← o.foldl_harnessTexts, hnil]
      rfl
  rw [hwrappers, hharness]

/-! ### Strays -/

/-- The names that a section can have, and none if there is no such section. -/
def settingNames (name : String) : List String :=
  if name = "wrappers" then ["symbol_prefix", "umbrella_header", "header_extensions"]
  else if name = "harness" then ["root_names", "test_prefix", "runtime_header", "runner_type"]
  else []

/-- A way that leads to nothing that can be set: to no section, or to no setting of one. -/
def IsStray : List String → Prop
  | [] => False
  | [name] => name ≠ "wrappers" ∧ name ≠ "harness"
  | name :: inner :: _ => inner ∉ settingNames name

theorem exists_mem_of_find? {entries : Entries} {name : String} {item : Item}
    (h : entries.find? name = some item) : ∃ key, (key, item) ∈ entries ∧ key.name = name := by
  obtain ⟨⟨key, _⟩, hfind, rfl⟩ := Option.map_eq_some_iff.mp h
  exact ⟨key, List.mem_of_find?_eq_some hfind, of_decide_eq_true (List.find?_some hfind :)⟩

/-- An entry of an unknown name is a fault. -/
theorem decodeEntry_eq_error {σ : Type} {fields : List (Field σ)} {entry : Key × Item}
    (h : entry.1.name ∉ fields.map (·.name)) (s : σ) :
    ∃ e, decodeEntry fields s entry = .error e := by
  have hnone : fields.find? (·.name = entry.1.name) = none := by
    refine List.find?_eq_none.mpr fun f hf hname => h (List.mem_map.mpr ⟨f, hf, ?_⟩)
    exact of_decide_eq_true hname
  exact ⟨_, by rw [decodeEntry, hnone]⟩

theorem decode_eq_error {σ : Type} {fields : List (Field σ)} {entries : Entries} {name : String}
    (hhas : entries.Has name) (h : name ∉ fields.map (·.name)) (s : σ) :
    ∃ e, entries.foldlM (decodeEntry fields) s = .error e := by
  obtain ⟨item, hitem⟩ := hhas
  obtain ⟨key, hmem, rfl⟩ := exists_mem_of_find? hitem
  exact foldlM_eq_error hmem (decodeEntry_eq_error h) s

/-- A stray name in the table of a section is a fault of the entries that hold the table. -/
theorem ofEntries_eq_error_of_table {σ : Type} {fields : List (Field σ)} (s₀ : σ)
    (put : Settings → σ → Settings) {entries within : Entries} {name inner : String}
    {extent : Option Extent} {kind : TableKind}
    (hfind : entries.find? name = some (.table extent kind within))
    (hhas : within.Has inner) (hinner : inner ∉ fields.map (·.name))
    (hsection : ∀ (key : Key) (s : Settings), key.name = name →
      decodeEntry sectionFields s (key, .table extent kind within) =
        (do return put s (← within.foldlM (decodeEntry fields) s₀))) :
    ∃ e, entries.foldlM (decodeEntry sectionFields) {} = .error e := by
  obtain ⟨key, hmem, hkey⟩ := exists_mem_of_find? hfind
  obtain ⟨e, he⟩ := decode_eq_error hhas hinner s₀
  refine foldlM_eq_error hmem (fun s => ⟨e, ?_⟩) ({} : Settings)
  rw [hsection key s hkey, he]
  rfl

/-- **Entries in which a way leads to a stray name are a fault.** -/
theorem ofEntries_of_stray {way : List String} {entries : Entries} (hstray : IsStray way)
    (h : Leads way entries) : ∃ e, Settings.ofEntries entries = .error e := by
  have hsections : ∀ name, name ≠ "wrappers" → name ≠ "harness" →
      name ∉ sectionFields.map (·.name) := by
    intro name hwrappers hharness
    simp [sectionFields, hwrappers, hharness]
  show ∃ e, entries.foldlM (decodeEntry sectionFields) {} = .error e
  match way, hstray, h with
  | [name], ⟨hwrappers, hharness⟩, hhas =>
    exact decode_eq_error hhas (hsections name hwrappers hharness) {}
  | name :: inner :: _, hinner, ⟨extent, kind, within, hfind, hhas⟩ =>
    have hinner : inner ∉ settingNames name := hinner
    by_cases hwrappers : name = "wrappers"
    · subst hwrappers
      have hunknown : inner ∉ wrapperFields.map (·.name) := hinner
      refine ofEntries_eq_error_of_table {} (fun s w => { s with wrappers := w }) hfind hhas
        hunknown ?_
      rintro ⟨_, position⟩ s rfl
      rfl
    · by_cases hharness : name = "harness"
      · subst hharness
        have hunknown : inner ∉ harnessFields.map (·.name) := hinner
        refine ofEntries_eq_error_of_table {} (fun s h => { s with harness := h }) hfind hhas
          hunknown ?_
        rintro ⟨_, position⟩ s rfl
        rfl
      · exact decode_eq_error ⟨_, hfind⟩ (hsections name hwrappers hharness) {}

/-! ### Documents -/

/-- The clauses of sections begin with a heading, and so does any first part of them. -/
theorem startsWithHeading_of_append {secs : List SectionText} {before after : List Clause}
    (h : secs.flatMap SectionText.clauses = before ++ after) : StartsWithHeading before := by
  rintro name content rest rfl
  cases secs with
  | nil => exact nomatch h
  | cons sec secs => exact nomatch (List.cons.inj h).1

theorem Overrides.PresentedBy.namesOnce {o : Overrides} {secs : List SectionText}
    (h : o.PresentedBy secs) : NamesOnce secs := by
  refine ⟨h.once, fun sec hsec => ?_⟩
  rcases h.texts sec hsec with ⟨-, hperm⟩ | ⟨-, hperm⟩
  · exact (hperm.map Prod.fst).nodup_iff.mpr o.nodup_wrapperTexts
  · exact (hperm.map Prod.fst).nodup_iff.mpr o.nodup_harnessTexts

/-- **A document gives just the settings that it says, and nothing else can be added to it.**

Let sections present values for some of the settings.  Every document that says these sections gives
these values, and the defaults for the rest.  And if, behind any of its lines, a key or a header is
added that leads to no setting, then the text is refused, whatever the value of the key is and
whatever comes behind it: the other lines or anything else. -/
theorem ofToml_overrides (o : Overrides) (secs : List SectionText) (h : o.PresentedBy secs) :
    (∀ text, IsDocument text (secs.flatMap SectionText.clauses) →
      Settings.ofToml (String.ofList text) = .ok o.settings) ∧
    ∀ before after front w added, secs.flatMap SectionText.clauses = before ++ after →
      IsLines front before → IsAddition w added → IsStray (added.way before) →
      ∀ rest, ∃ e, Settings.ofToml (String.ofList (front ++ (w ++ rest))) = .error e := by
  constructor
  · intro text htext
    obtain ⟨entries, hparse, hholds⟩ := htext.parse h.namesOnce
    rw [Settings.ofToml, hparse]
    dsimp only
    rw [ofEntries_of_presented h hholds]
  · intro before after front w added hsplit hfront hw hstray rest
    rw [Settings.ofToml]
    cases hparse : parse (String.ofList (front ++ (w ++ rest))) with
    | none => exact ⟨.syntaxError, rfl⟩
    | some entries =>
      have hleads := hw.leads_of_parse hfront (startsWithHeading_of_append hsplit) hparse
      obtain ⟨fault, hfault⟩ := ofEntries_of_stray hstray hleads
      refine ⟨.shape fault, ?_⟩
      dsimp only
      rw [hfault]

/-- The prefix of test methods is overridden and nothing else, and no `root` can be added. -/
theorem ofToml_overrides_testPrefix :
    Settings.ofToml "[harness]\ntest_prefix = \"t\"\n" =
        .ok { harness := { testPrefix := "t" } } ∧
      ∃ e, Settings.ofToml "[harness]\ntest_prefix = \"t\"\nroot = [\"X\"]\n" = .error e := by
  have hpresented : ({ testPrefix := some "t" } : Overrides).PresentedBy
      [("harness", [("test_prefix", .text "t")])] :=
    { once := by decide
      texts := by
        intro sec hsec
        obtain rfl := List.mem_singleton.mp hsec
        exact Or.inr ⟨rfl, .refl _⟩
      wrappers := fun h => absurd rfl h
      harness := fun _ => List.mem_singleton.mpr rfl }
  have hspace : IsGap [' '] := by
    intro x hx
    obtain rfl := List.mem_singleton.mp hx
    rfl
  have hname : ∀ name : String, name.toList ≠ [] → (∀ c ∈ name.toList, isKeyChar c = true) →
      ∀ g, IsGap g → IsKey (name.toList ++ g) [name.toList] :=
    fun name hne hchars g hg => .last isGap_nil (.bare hne hchars) hg
  have hend : IsEmptyLine ['\n'] := ⟨[], [], ['\n'], isGap_nil, .none, Or.inl rfl, rfl⟩
  have hheading : IsClause "[harness]".toList (.heading "harness") :=
    .heading isGap_nil (hname "harness" (by decide) (by decide) [] isGap_nil)
  have hsetting : IsClause "test_prefix = \"t\"".toList (.setting "test_prefix" (.text "t")) :=
    .setting (hname "test_prefix" (by decide) (by decide) [' '] hspace) hspace
      (.text (.basic (.cons (.plain (by decide) (by decide) (by decide)) .nil)))
  have hlines : IsLines "[harness]\ntest_prefix = \"t\"\n".toList
      [.heading "harness", .setting "test_prefix" (.text "t")] :=
    .clause hheading hend (.clause hsetting hend .nil)
  have hdocument : IsDocument "[harness]\ntest_prefix = \"t\"\n".toList
      [.heading "harness", .setting "test_prefix" (.text "t")] :=
    ⟨_, _, _, _, hlines, .empty isGap_nil .none, rfl, rfl⟩
  have hadded : IsAddition "root =".toList (.key ["root"]) :=
    .key (hname "root" (by decide) (by decide) [' '] hspace)
  have hstray : IsStray ["harness", "root"] := (by decide : "root" ∉ settingNames "harness")
  obtain ⟨hgiven, hrefused⟩ := ofToml_overrides _ _ hpresented
  refine ⟨hgiven _ hdocument, ?_⟩
  exact hrefused _ [] _ _ _ (List.append_nil _).symm hlines hadded hstray " [\"X\"]\n".toList

end HeaderSurvey
