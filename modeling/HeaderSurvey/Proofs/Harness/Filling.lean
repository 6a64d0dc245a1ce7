import HeaderSurvey.Harness.Emit
import HeaderSurvey.Proofs.Text.Replace

/-!
# The templates of a harness, filled at once

The placeholders of a harness are filled one after the other.  Here each of the three templates is
taken apart, and filling its placeholders in turn is seen to be the same as filling them all at
once: `preamble_eq_fill`, `mainFunction_eq_fill` and `registration_eq_fill`.  The values that are in
place before the last step must be free of at signs; those of the last step, the paths of the
includes and the registrations among them, may hold anything.

Of the templates themselves only a few facts are used, and these are computed: where their
placeholders stand (`Layout.Describes`), and what follows the includes.  From them come the places
of the includes (`exists_preamble_eq`) and of the registrations (`exists_mainFunction_eq`, and
`exists_join_mainFunction` for any runner type).
-/

namespace HeaderSurvey.Harness

open Text

/-- The registrations of the test cases, each on lines of its own. -/
def registrationBlock (cases : List TestCase) : List Char :=
  join ['\n'] (cases.map registration)

/-- The pointers to the methods of a test case, as its registration lists them. -/
def memberList (c : TestCase) : List Char :=
  join [',', ' '] ((c.methods.map fun m => "&" ++ c.decl.name ++ "::" ++ m.name).map String.toList)

/-- The names of the tests of a test case, as its registration lists them. -/
def nameList (c : TestCase) : List Char :=
  join [',', ' '] ((c.methods.map fun m => "\"" ++ m.qualifiedName ++ "\"").map String.toList)

theorem toList_emit (settings : HarnessSettings) (cases : List TestCase) :
    (emit settings cases).toList = preamble settings cases ++ mainFunction settings cases := by
  rw [emit, String.toList_ofList]

/-! ### The templates taken apart -/

/-- The preamble, taken apart. -/
def preambleLayout : Layout :=
  .ofTemplate preambleTemplate

/-- The main function, taken apart. -/
def mainLayout : Layout :=
  .ofTemplate mainTemplate

/-- A registration, taken apart. -/
def registrationLayout : Layout :=
  .ofTemplate registrationTemplate

/-- The characters of a literal are those it is made of.  Facts about a template are computed from
them; evaluation would decode the bytes of every literal first. -/
theorem map_toList_cons {line : List Char} {lines : List String} {texts : List (List Char)}
    (h : lines.map String.toList = texts) :
    (String.ofList line :: lines).map String.toList = line :: texts := by
  rw [List.map_cons, h, String.toList_ofList]

theorem of_lines {P : List Char → Prop} {lines : List String} {texts : List (List Char)}
    (hlines : lines.map String.toList = texts) (h : P (join ['\n'] texts)) :
    P (joinLines lines) := by
  rw [joinLines, hlines]
  exact h

/-- The preamble has a placeholder for the header and one for the includes, behind which it goes on
with two newlines. -/
theorem preambleLayout_spec :
    preambleLayout.Describes preambleTemplate ["RUNTIME_HEADER".toList, "INCLUDES".toList] ∧
      preambleLayout.slots.getLast?.map (fun slot => (slot.next, slot.text.head?)) =
        some ('\n', some '\n') := by
  apply of_lines (P := fun text => (Layout.ofTemplate text).Describes text _ ∧
    (Layout.ofTemplate text).slots.getLast?.map _ = _)
  · repeat apply map_toList_cons
    exact List.map_nil
  · decide +kernel

/-- The main function has a placeholder for the runner and one for the registrations.  It begins
differently from the one that runs no tests. -/
theorem mainLayout_spec :
    mainLayout.Describes mainTemplate ["RUNNER_TYPE".toList, "REGISTRATIONS".toList] ∧
      ¬ mainLayout.front <+: emptyMain := by
  apply of_lines (P := fun text => (Layout.ofTemplate text).Describes text _ ∧
    ¬ (Layout.ofTemplate text).front <+: emptyMain)
  · repeat apply map_toList_cons
    exact List.map_nil
  · decide +kernel

theorem registrationLayout_describes :
    registrationLayout.Describes registrationTemplate
      ["CLASS".toList, "CLASS".toList, "MEMBERS".toList, "NAMES".toList] := by
  apply of_lines (P := fun text => (Layout.ofTemplate text).Describes text _)
  · repeat apply map_toList_cons
    exact List.map_nil
  · decide +kernel

/-! ### Filling -/

/-- What the placeholders of the preamble stand for. -/
def preambleValues (settings : HarnessSettings) (cases : List TestCase) :
    List (List Char × List Char) :=
  [("RUNTIME_HEADER".toList, settings.runtimeHeader.toList),
    ("INCLUDES".toList, includeBlock cases)]

/-- What the placeholders of the main function stand for. -/
def mainValues (settings : HarnessSettings) (cases : List TestCase) :
    List (List Char × List Char) :=
  [("RUNNER_TYPE".toList, settings.runnerType.toList),
    ("REGISTRATIONS".toList, registrationBlock cases)]

/-- What the placeholders of a registration stand for. -/
def registrationValues (c : TestCase) : List (List Char × List Char) :=
  [("CLASS".toList, c.decl.name.toList), ("MEMBERS".toList, memberList c),
    ("NAMES".toList, nameList c)]

section Fill

variable {settings : HarnessSettings} {cases : List TestCase} {c : TestCase}

/-- The preamble has its placeholders filled at once. -/
theorem preamble_eq_fill (hheader : '@' ∉ settings.runtimeHeader.toList) :
    preamble settings cases = preambleLayout.fill (preambleValues settings cases) := by
  have hheaderMark : "@RUNTIME_HEADER@".toList = mark "RUNTIME_HEADER".toList := by decide
  have hincludesMark : "@INCLUDES@".toList = mark "INCLUDES".toList := by decide
  have hplain := preambleLayout_spec.1.plain
  rw [preamble, fill, fill, hheaderMark, hincludesMark, ← preambleLayout_spec.1.fill_nil,
    Layout.replace_fill hplain (by simp) (by simp),
    Layout.replace_fill hplain (by simp) (by simpa using hheader)]
  rfl

/-- The main function before the registrations are put in. -/
theorem mainTemplate_replace_eq_fill :
    fill "@RUNNER_TYPE@" settings.runnerType.toList mainTemplate =
      mainLayout.fill [("RUNNER_TYPE".toList, settings.runnerType.toList)] := by
  have hrunnerMark : "@RUNNER_TYPE@".toList = mark "RUNNER_TYPE".toList := by decide
  rw [fill, hrunnerMark, ← mainLayout_spec.1.fill_nil,
    Layout.replace_fill mainLayout_spec.1.plain (by simp) (by simp), List.nil_append]

/-- The main function has its placeholders filled at once. -/
theorem mainFunction_eq_fill (hrunner : '@' ∉ settings.runnerType.toList) (hcases : cases ≠ []) :
    mainFunction settings cases = mainLayout.fill (mainValues settings cases) := by
  have hregistrationsMark : "@REGISTRATIONS@".toList = mark "REGISTRATIONS".toList := by decide
  rw [mainFunction, if_neg (by simpa using hcases), mainTemplate_replace_eq_fill, fill,
    hregistrationsMark,
    Layout.replace_fill mainLayout_spec.1.plain (by simp) (by simpa using hrunner)]
  rfl

/-- A registration has its placeholders filled at once. -/
theorem registration_eq_fill (hname : '@' ∉ c.decl.name.toList) (hmembers : '@' ∉ memberList c) :
    registration c = registrationLayout.fill (registrationValues c) := by
  have hclassMark : "@CLASS@".toList = mark "CLASS".toList := by decide
  have hmembersMark : "@MEMBERS@".toList = mark "MEMBERS".toList := by decide
  have hnamesMark : "@NAMES@".toList = mark "NAMES".toList := by decide
  have hplain := registrationLayout_describes.plain
  have hregistration : registration c = fill "@NAMES@" (nameList c)
      (fill "@MEMBERS@" (memberList c) (fill "@CLASS@" c.decl.name.toList registrationTemplate)) :=
    rfl
  have hvalues : ∀ entry ∈ [("CLASS".toList, c.decl.name.toList), ("MEMBERS".toList, memberList c)],
      '@' ∉ entry.2 := by simp [hname, hmembers]
  rw [hregistration, fill, fill, fill, hclassMark, hmembersMark, hnamesMark,
    ← registrationLayout_describes.fill_nil,
    Layout.replace_fill hplain (by simp) (by simp),
    Layout.replace_fill hplain (by simp) (by simpa using hname)]
  exact Layout.replace_fill hplain (by simp) hvalues (nameList c)

end Fill

/-! ### Where the values stand -/

theorem exists_slots_eq {layout : Layout} {name name' : List Char}
    (h : layout.slots.map Slot.name = [name, name']) :
    ∃ x s y t, layout.slots = [⟨name, x, s⟩, ⟨name', y, t⟩] := by
  obtain ⟨slot, slots, hslots, rfl, hrest⟩ := List.map_eq_cons_iff.mp h
  obtain ⟨slot', slots, rfl, rfl, hnil⟩ := List.map_eq_cons_iff.mp hrest
  obtain rfl := List.map_eq_nil_iff.mp hnil
  exact ⟨slot.next, slot.text, slot'.next, slot'.text, hslots⟩

variable {settings : HarnessSettings}

/-- Nothing but the includes depends on the test cases in the preamble, and an empty line follows
them. -/
theorem exists_preamble_eq (hheader : '@' ∉ settings.runtimeHeader.toList) :
    ∃ front back, ∀ cases,
      preamble settings cases = front ++ (includeBlock cases ++ '\n' :: '\n' :: back) := by
  obtain ⟨x, s, y, t, hslots⟩ := exists_slots_eq preambleLayout_spec.1.map_name
  have hlast := preambleLayout_spec.2
  rw [hslots] at hlast
  obtain ⟨rfl, ht⟩ : y = '\n' ∧ t.head? = some '\n' := by simpa using hlast
  obtain ⟨back, rfl⟩ := List.head?_eq_some_iff.mp ht
  refine ⟨preambleLayout.front ++ settings.runtimeHeader.toList ++ x :: s, back, fun cases => ?_⟩
  rw [preamble_eq_fill hheader, Layout.fill, hslots]
  simp [Slot.fill, preambleValues, List.lookup_cons]

/-- Nothing but the registrations depends on the test cases in a main function that runs some. -/
theorem exists_mainFunction_eq (hrunner : '@' ∉ settings.runnerType.toList) :
    ∃ front back, ∀ cases ≠ [],
      mainFunction settings cases =
        mainLayout.front ++ (front ++ (registrationBlock cases ++ back)) := by
  obtain ⟨x, s, y, t, hslots⟩ := exists_slots_eq mainLayout_spec.1.map_name
  refine ⟨settings.runnerType.toList ++ x :: s, y :: t, fun cases hcases => ?_⟩
  rw [mainFunction_eq_fill hrunner hcases, Layout.fill, hslots]
  simp [Slot.fill, mainValues, List.lookup_cons]

/-- The registrations stand in the same places whatever they are.  There is one place at least;
there are more if the type of the runner holds their mark. -/
theorem exists_join_mainFunction (settings : HarnessSettings) :
    ∃ pieces : List (List Char), 2 ≤ pieces.length ∧
      ∀ cases ≠ [], mainFunction settings cases = join (registrationBlock cases) pieces := by
  obtain ⟨x, s, y, t, hslots⟩ := exists_slots_eq mainLayout_spec.1.map_name
  obtain ⟨-, hslot, hapart⟩ := mainLayout_spec.1.plain
  rw [hslots, List.forall_mem_cons] at hslot hapart
  obtain ⟨hrunner, hregistrations⟩ := hslot
  obtain ⟨hrunnerApart, hregistrationsApart⟩ := hapart
  obtain ⟨hx, hs⟩ : '@' ≠ x ∧ '@' ∉ s := by simpa using hrunner.behind
  -- the character behind the runner type keeps its occurrences of the mark apart from the last one
  have hxMark : x ∉ mark "REGISTRATIONS".toList := by
    rw [mem_mark, not_or]
    exact ⟨Ne.symm hx, (hrunnerApart "REGISTRATIONS".toList (by simp)).next_notMem⟩
  have hend : ∀ value, replace (mark "REGISTRATIONS".toList) value
      (s ++ (mark "REGISTRATIONS".toList ++ y :: t)) = s ++ (value ++ y :: t) := by
    intro value
    have hplain : (Layout.mk s [⟨"REGISTRATIONS".toList, y, t⟩]).Plain
        ["RUNNER_TYPE".toList, "REGISTRATIONS".toList] :=
      ⟨hs, hregistrations, hregistrationsApart⟩
    have hunfilled : ∀ entry ∈ ([] : List (List Char × List Char)), '@' ∉ entry.2 := by simp
    have hfill := Layout.replace_fill hplain (List.mem_cons_of_mem _ (List.mem_singleton_self _))
      hunfilled value
    simpa [Layout.fill, Slot.fill, List.lookup_cons] using hfill
  obtain ⟨piece, pieces, hpieces⟩ := exists_join_pieces (mark "REGISTRATIONS".toList)
    (mainLayout.front ++ settings.runnerType.toList)
  obtain ⟨pieces', hlen, hjoin⟩ := exists_join_append piece pieces (x :: s) (y :: t)
  refine ⟨pieces', hlen, fun cases hcases => ?_⟩
  have hmark : "@REGISTRATIONS@".toList = mark "REGISTRATIONS".toList := by decide
  have htemplate : mainLayout.fill [("RUNNER_TYPE".toList, settings.runnerType.toList)] =
      (mainLayout.front ++ settings.runnerType.toList) ++
        x :: (s ++ (mark "REGISTRATIONS".toList ++ y :: t)) := by
    rw [Layout.fill, hslots]
    simp [Slot.fill, List.lookup_cons]
  rw [mainFunction, if_neg (by simpa using hcases), mainTemplate_replace_eq_fill, htemplate, fill,
    hmark, replace_append_cons (mark_ne_nil _) hxMark, hend, hpieces, ← hjoin]
  simp [registrationBlock]

end HeaderSurvey.Harness
