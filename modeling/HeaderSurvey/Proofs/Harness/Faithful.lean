import HeaderSurvey.Proofs.Harness.Statement
import HeaderSurvey.Proofs.Text.Sorted

/-!
# A harness loses nothing

**`emit_faithful`** says what the text of a harness is and what it tells about its test cases.

* The text is that of the templates with all placeholders filled at once.
* The include block lists the paths, each once, in the order of their bytes.
* There is one registration for each test case, in order, and its pointers and names are those of
  the methods of the test case.  Read off in order, the names are the listed tests.
* Two lists of test cases with the same text have the same paths and agree in their names and
  methods, as long as no path holds a newline.

For the last one the text is read from its beginning.  The preamble is fixed up to the includes;
these are the lines up to the first empty one; behind them everything is fixed again up to the
registrations, which `statements` reads.
-/

namespace HeaderSurvey.Harness

open Text

variable {settings : HarnessSettings} {cases cases' : List TestCase}

/-! ### The includes -/

/-- The normalised paths of the files that declare the test cases, in order. -/
def includePaths (cases : List TestCase) : List String :=
  sortOnce (cases.map fun c => includePath c.decl.path)

/-- The line that includes a file. -/
def includeLine (path : String) : String :=
  "#include \"" ++ path ++ "\""

/-- The lines up to the first empty one. -/
def paragraph (text : List Char) : List (List Char) :=
  (splitBy (· = '\n') text).takeWhile (!·.isEmpty)

theorem includeBlock_eq (cases : List TestCase) :
    includeBlock cases = joinLines ((includePaths cases).map includeLine) :=
  rfl

theorem mem_includePaths {path : String} :
    path ∈ includePaths cases ↔ ∃ c ∈ cases, includePath c.decl.path = path := by
  rw [includePaths, mem_sortOnce, List.mem_map]

theorem includeLine_injective : Function.Injective includeLine := by
  intro p q h
  have hchars := congrArg String.toList h
  rw [includeLine, includeLine] at hchars
  simp only [String.toList_append, List.append_cancel_right_eq, List.append_cancel_left_eq]
    at hchars
  exact String.toList_injective hchars

/-- A path gets no newline when it is normalised. -/
theorem newline_notMem_includePath {path : String} (h : '\n' ∉ path.toList) :
    '\n' ∉ (includePath path).toList := by
  rw [includePath, String.toList_ofList, replaceChar]
  intro hmem
  obtain ⟨x, hx, heq⟩ := List.mem_map.mp hmem
  split_ifs at heq
  · exact absurd heq (by decide)
  · exact h (heq ▸ hx)

theorem newline_notMem_includeLine (hpaths : ∀ c ∈ cases, '\n' ∉ c.decl.path.toList) :
    ∀ path ∈ includePaths cases, '\n' ∉ (includeLine path).toList := by
  intro path hpath
  obtain ⟨c, hc, rfl⟩ := mem_includePaths.mp hpath
  have hpath := newline_notMem_includePath (hpaths c hc)
  simp [includeLine, hpath]

/-- The includes are the first lines of a text that begins with them and goes on with an empty
line. -/
theorem paragraph_includeBlock (hpaths : ∀ c ∈ cases, '\n' ∉ c.decl.path.toList)
    (back : List Char) :
    paragraph (includeBlock cases ++ '\n' :: '\n' :: back) =
      (includePaths cases).map fun path => (includeLine path).toList := by
  rw [includeBlock_eq, joinLines, List.map_map]
  by_cases hnil : includePaths cases = []
  · simp [hnil, paragraph, splitBy, join]
  · have hlines : ∀ s ∈ (includePaths cases).map (String.toList ∘ includeLine), ∀ x ∈ s,
        decide (x = '\n') = false := by
      intro s hs x hx
      obtain ⟨path, hpath, rfl⟩ := List.mem_map.mp hs
      refine decide_eq_false ?_
      rintro rfl
      exact newline_notMem_includeLine hpaths path hpath hx
    have hne : (includePaths cases).map (String.toList ∘ includeLine) ≠ [] := by simpa using hnil
    have hfull : ∀ s ∈ (includePaths cases).map (String.toList ∘ includeLine),
        (!s.isEmpty) = true := by
      intro s hs
      obtain ⟨path, -, rfl⟩ := List.mem_map.mp hs
      simp [includeLine]
    rw [paragraph, splitBy_join_append_cons (by simp) hlines hne, splitBy, if_pos (by simp),
      List.takeWhile_append_of_pos hfull, List.takeWhile_cons_of_neg (by simp), List.append_nil]
    rfl

/-! ### What the text determines -/

/-- Lists that agree under one function, element by element, agree under another one that this
function determines. -/
theorem map_eq_map_of_determined {α β γ : Type} {f : α → β} {g : α → γ} {xs ys : List α}
    (hfg : ∀ x ∈ xs, ∀ y ∈ ys, f x = f y → g x = g y) (h : xs.map f = ys.map f) :
    xs.map g = ys.map g := by
  induction xs generalizing ys with
  | nil =>
    obtain rfl := List.map_eq_nil_iff.mp h.symm
    rfl
  | cons x xs ih =>
    obtain ⟨y, ys, rfl, hy, hys⟩ := List.map_eq_cons_iff.mp h.symm
    rw [List.map_cons, List.map_cons,
      hfg x (List.mem_cons_self ..) y (List.mem_cons_self ..) hy.symm,
      ih (fun x hx y hy => hfg x (List.mem_cons_of_mem _ hx) y (List.mem_cons_of_mem _ hy))
        hys.symm]

/-- A statement determines the class and the methods. -/
theorem eq_of_ofCase_eq {c c' : TestCase} (hc : c.Plain) (hc' : c'.Plain)
    (h : Statement.ofCase c = Statement.ofCase c') :
    (c.decl.name, c.methods) = (c'.decl.name, c'.methods) := by
  obtain ⟨hname, hmethods, -⟩ := Statement.mk.inj h
  have hsame := map_eq_map_of_determined (g := id) (fun m hm m' hm' hqualified => ?_) hmethods
  · rw [List.map_id, List.map_id] at hsame
    rw [hname, hsame]
  · have hclass : m.className = m'.className := by
      rw [hc.className m hm, hc'.className m' hm', hname]
    have hchars := congrArg String.toList hqualified
    rw [TestMethod.qualifiedName, TestMethod.qualifiedName, hclass] at hchars
    simp only [String.toList_append, List.append_cancel_left_eq] at hchars
    exact congrArg₂ TestMethod.mk hclass (String.toList_injective hchars)

/-- The text of a harness determines its include block, what the includes are, and its main
function. -/
theorem eq_of_preamble_append_eq (hheader : '@' ∉ settings.runtimeHeader.toList)
    (hpaths : ∀ c ∈ cases, '\n' ∉ c.decl.path.toList)
    (hpaths' : ∀ c ∈ cases', '\n' ∉ c.decl.path.toList) {text text' : List Char}
    (h : preamble settings cases ++ text = preamble settings cases' ++ text') :
    includePaths cases = includePaths cases' ∧ text = text' := by
  obtain ⟨front, back, hpreamble⟩ := exists_preamble_eq hheader
  simp only [hpreamble, List.append_assoc, List.cons_append, List.append_cancel_left_eq] at h
  have hlines := congrArg paragraph h
  rw [paragraph_includeBlock hpaths, paragraph_includeBlock hpaths'] at hlines
  have hinjective : Function.Injective fun path => (includeLine path).toList := fun _ _ heq =>
    includeLine_injective (String.toList_injective heq)
  have hsame : includePaths cases = includePaths cases' :=
    List.map_injective_iff.mpr hinjective hlines
  rw [includeBlock_eq, includeBlock_eq, hsame, List.append_cancel_left_eq] at h
  exact ⟨hsame, by simpa using h⟩

/-- The main function of a harness determines its registrations, and whether there are any. -/
theorem eq_of_mainFunction_eq (hrunner : '@' ∉ settings.runnerType.toList)
    (h : mainFunction settings cases = mainFunction settings cases') :
    registrationBlock cases = registrationBlock cases' := by
  obtain ⟨front, back, hmain⟩ := exists_mainFunction_eq hrunner
  by_cases hnil : cases = [] <;> by_cases hnil' : cases' = []
  · rw [hnil, hnil']
  · -- a main function that runs tests does not begin as one that runs none
    subst hnil
    rw [hmain cases' hnil'] at h
    exact absurd ⟨_, h.symm⟩ mainLayout_spec.2
  · subst hnil'
    rw [hmain cases hnil] at h
    exact absurd ⟨_, h⟩ mainLayout_spec.2
  · rw [hmain cases hnil, hmain cases' hnil', List.append_cancel_left_eq,
      List.append_cancel_left_eq, List.append_cancel_right_eq] at h
    exact h

/-! ### The harness as a whole -/

/-- What the text of a harness tells about the test cases. -/
structure Faithful (settings : HarnessSettings) (cases : List TestCase) : Prop where
  /-- The text is that of the templates with all placeholders filled at once. -/
  text : (emit settings cases).toList =
    replaceEach [("@RUNTIME_HEADER@".toList, settings.runtimeHeader.toList),
      ("@INCLUDES@".toList, includeBlock cases)] preambleTemplate ++
    if cases = [] then emptyMain
    else replaceEach [("@RUNNER_TYPE@".toList, settings.runnerType.toList),
      ("@REGISTRATIONS@".toList, registrationBlock cases)] mainTemplate
  /-- So is the text of each registration. -/
  registration : ∀ c ∈ cases, registration c =
    replaceEach [("@CLASS@".toList, c.decl.name.toList), ("@MEMBERS@".toList, memberList c),
      ("@NAMES@".toList, nameList c)] registrationTemplate
  /-- The includes are the normalised paths, each once, in the order of their bytes. -/
  includes : ∃ paths : List String,
    includeBlock cases = joinLines (paths.map fun path => "#include \"" ++ path ++ "\"") ∧
    (∀ path, path ∈ paths ↔ ∃ c ∈ cases, includePath c.decl.path = path) ∧
    paths.Pairwise fun p q => bytes p.toList < bytes q.toList
  /-- There is one registration for each test case, in order, and its pointers and names are those
  of the methods. -/
  statements : statements (registrationBlock cases) = cases.map Statement.ofCase
  /-- The names in the registrations are the listed tests. -/
  tests : (Harness.statements (registrationBlock cases)).flatMap Statement.names = listTests cases

section Texts

variable {c : TestCase}

theorem replaceEach_preambleTemplate (hheader : '@' ∉ settings.runtimeHeader.toList) :
    replaceEach [("@RUNTIME_HEADER@".toList, settings.runtimeHeader.toList),
      ("@INCLUDES@".toList, includeBlock cases)] preambleTemplate = preamble settings cases := by
  have hmarks : marks (preambleValues settings cases) =
      [("@RUNTIME_HEADER@".toList, settings.runtimeHeader.toList),
        ("@INCLUDES@".toList, includeBlock cases)] := by
    simp [marks, mark, preambleValues]
  rw [preamble_eq_fill hheader, ← hmarks]
  exact Layout.replaceEach_template preambleLayout_spec.1 (by simp [preambleValues])

theorem replaceEach_mainTemplate (hrunner : '@' ∉ settings.runnerType.toList)
    (hcases : cases ≠ []) :
    replaceEach [("@RUNNER_TYPE@".toList, settings.runnerType.toList),
      ("@REGISTRATIONS@".toList, registrationBlock cases)] mainTemplate =
      mainFunction settings cases := by
  have hmarks : marks (mainValues settings cases) =
      [("@RUNNER_TYPE@".toList, settings.runnerType.toList),
        ("@REGISTRATIONS@".toList, registrationBlock cases)] := by
    simp [marks, mark, mainValues]
  rw [mainFunction_eq_fill hrunner hcases, ← hmarks]
  exact Layout.replaceEach_template mainLayout_spec.1 (by simp [mainValues])

theorem replaceEach_registrationTemplate (hc : c.Plain) :
    replaceEach [("@CLASS@".toList, c.decl.name.toList), ("@MEMBERS@".toList, memberList c),
      ("@NAMES@".toList, nameList c)] registrationTemplate = registration c := by
  have hname : '@' ∉ c.decl.name.toList := fun hmem => absurd (hc.name '@' hmem) (by decide)
  have hmembers : '@' ∉ memberList c := notMem_memberList hc (by decide) (by decide)
  have hmarks : marks (registrationValues c) =
      [("@CLASS@".toList, c.decl.name.toList), ("@MEMBERS@".toList, memberList c),
        ("@NAMES@".toList, nameList c)] := by
    simp [marks, mark, registrationValues]
  rw [registration_eq_fill hname hmembers, ← hmarks]
  exact Layout.replaceEach_template registrationLayout_describes (by simp [registrationValues])

end Texts

theorem faithful (hheader : '@' ∉ settings.runtimeHeader.toList)
    (hrunner : '@' ∉ settings.runnerType.toList) (hcases : ∀ c ∈ cases, c.Plain) :
    Faithful settings cases := by
  have hstatements := statements_registrationBlock hcases
  refine ⟨?_, ?_, ?_, hstatements, ?_⟩
  · rw [toList_emit, replaceEach_preambleTemplate hheader]
    by_cases hnil : cases = []
    · subst hnil
      rfl
    · rw [if_neg hnil, replaceEach_mainTemplate hrunner hnil]
  · intro c hc
    exact (replaceEach_registrationTemplate (hcases c hc)).symm
  · exact ⟨includePaths cases, includeBlock_eq cases, fun _ => mem_includePaths,
      pairwise_bytes_sortOnce _⟩
  · rw [hstatements, flatMap_names_ofCase]

/-- **A harness loses and misaligns nothing.**  For all settings whose texts hold no at sign, and
all test cases with identifiers for names: the text is what the templates say, with every
placeholder filled at once, and the includes and registrations can be read off it.  If no path holds
a newline, two lists of test cases with the same text agree in their names and methods and have the
same normalised paths. -/
theorem emit_faithful (hheader : '@' ∉ settings.runtimeHeader.toList)
    (hrunner : '@' ∉ settings.runnerType.toList) (hcases : ∀ c ∈ cases, c.Plain) :
    Faithful settings cases ∧
    ∀ cases' : List TestCase, (∀ c ∈ cases', c.Plain) →
      (∀ c ∈ cases, '\n' ∉ c.decl.path.toList) → (∀ c ∈ cases', '\n' ∉ c.decl.path.toList) →
      emit settings cases = emit settings cases' →
        cases.map (fun c => (c.decl.name, c.methods)) =
          cases'.map (fun c => (c.decl.name, c.methods)) ∧
        ∀ path, (∃ c ∈ cases, includePath c.decl.path = path) ↔
          ∃ c ∈ cases', includePath c.decl.path = path := by
  refine ⟨faithful hheader hrunner hcases, ?_⟩
  intro cases' hcases' hpaths hpaths' h
  have htext := congrArg String.toList h
  rw [toList_emit, toList_emit] at htext
  obtain ⟨hincludes, hmain⟩ := eq_of_preamble_append_eq hheader hpaths hpaths' htext
  have hstatements := congrArg statements (eq_of_mainFunction_eq hrunner hmain)
  rw [statements_registrationBlock hcases, statements_registrationBlock hcases'] at hstatements
  constructor
  · refine map_eq_map_of_determined ?_ hstatements
    intro c hc c' hc' hsame
    exact eq_of_ofCase_eq (hcases c hc) (hcases' c' hc') hsame
  · intro path
    rw [← mem_includePaths, ← mem_includePaths, hincludes]

/-- Two test cases in one file, whose path is written in two ways and holds the mark of the
includes, and a test that is declared twice.  The lines of the declarations are not in the text. -/
theorem emit_faithful_repeated :
    let decl (name path : String) (line : Nat) : TypeDecl :=
      ⟨.classWord, name, ["TestCase"], path, 0, line, ⟨0, 0⟩, ⟨0, 0⟩, ""⟩
    let first (line : Nat) : TestCase :=
      ⟨decl "First" "tests/@INCLUDES@.h" line, [⟨"First", "test_a"⟩, ⟨"First", "test_a"⟩]⟩
    let second (line : Nat) : TestCase :=
      ⟨decl "Second" "tests\\@INCLUDES@.h" line, [⟨"Second", "test_b"⟩]⟩
    Faithful {} [first 1, second 5] ∧
      emit {} [first 1, second 5] = emit {} [first 2, second 3] ∧
      [first 1, second 5].map (fun c => (c.decl.name, c.methods)) =
        [first 2, second 3].map (fun c => (c.decl.name, c.methods)) ∧
      ∀ path, (∃ c ∈ [first 1, second 5], includePath c.decl.path = path) ↔
        ∃ c ∈ [first 2, second 3], includePath c.decl.path = path := by
  intro decl first second
  have hnames : IsIdentifier "First" ∧ IsIdentifier "Second" := by decide
  have hmethods : IsIdentifier "test_a" ∧ IsIdentifier "test_b" := by decide
  have hfirst : ∀ line, (first line).Plain := fun line =>
    ⟨hnames.1, by simp [first, decl], by simp [first, hmethods]⟩
  have hsecond : ∀ line, (second line).Plain := fun line =>
    ⟨hnames.2, by simp [second, decl], by simp [second, hmethods]⟩
  have hplain : ∀ line line', ∀ c ∈ [first line, second line'], c.Plain := fun line line' =>
    List.forall_mem_cons.mpr ⟨hfirst line, List.forall_mem_singleton.mpr (hsecond line')⟩
  have hpaths : ∀ line line', ∀ c ∈ [first line, second line'], '\n' ∉ c.decl.path.toList :=
    fun line line' => List.forall_mem_cons.mpr
      ⟨by simp [first, decl], List.forall_mem_singleton.mpr (by simp [second, decl])⟩
  have hemit : emit {} [first 1, second 5] = emit {} [first 2, second 3] := rfl
  have hfaithful := @emit_faithful {} _ (by decide) (by decide) (hplain 1 5)
  exact ⟨hfaithful.1, hemit, hfaithful.2 _ (hplain 2 3) (hpaths 1 5) (hpaths 2 3) hemit⟩

end HeaderSurvey.Harness
