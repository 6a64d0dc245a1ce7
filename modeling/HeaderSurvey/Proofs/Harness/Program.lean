import HeaderSurvey.Proofs.Harness.Statement
import Mathlib.Data.List.Infix

/-!
# Reading a whole program back

`registrations` takes the registrations out of the text of a whole harness: the statements of its
main function that register a test case.  **`registrations_emit`** says that with the default
settings these are the registrations of the test cases, in order, so that the names in them are the
listed tests (`displayNames_emit`).

The main function begins behind the last place where its signature stands.  What is in front of it
may hold anything, since the paths of the includes are written as they are; what is behind it holds
no square bracket, so the signature does not stand there again.
-/

namespace HeaderSurvey.Harness

open Text

/-! ### The reader -/

/-- What stands behind the last occurrence of a key, if there is any. -/
def afterLast? (key : List Char) : List Char → Option (List Char)
  | [] => dropStart? key []
  | c :: text =>
    match afterLast? key text with
    | some rest => some rest
    | none => dropStart? key (c :: text)

/-- What the main function begins with. -/
def mainSignature : List Char :=
  "int main(int argc, char* argv[])".toList

/-- Whether a statement registers a test case. -/
def registers (statement : List Char) : Bool :=
  "runner->register_case<".toList <:+: statement

/-- The registrations in the main function of a program. -/
def registrations (program : String) : List Statement :=
  let body := (afterLast? mainSignature program.toList).getD []
  ((splitBy (· = ';') body).filter registers).map Statement.read

/-- The names of the tests that a program registers, in order. -/
def displayNames (program : String) : List String :=
  (registrations program).flatMap Statement.names

/-! ### The last occurrence -/

theorem exists_append_of_afterLast? {key text rest : List Char}
    (h : afterLast? key text = some rest) : ∃ front, text = front ++ (key ++ rest) := by
  have hhere : ∀ {text}, dropStart? key text = some rest →
      ∃ front, text = front ++ (key ++ rest) := fun h => by
    refine ⟨[], ?_⟩
    rw [List.nil_append]
    exact eq_append_of_dropStart? h
  induction text with
  | nil => exact hhere h
  | cons c text ih =>
    rw [afterLast?] at h
    cases hlater : afterLast? key text with
    | none =>
      rw [hlater] at h
      exact hhere h
    | some rest' =>
      rw [hlater] at h
      obtain rfl := Option.some.inj h
      obtain ⟨front, rfl⟩ := ih hlater
      exact ⟨c :: front, rfl⟩

/-- A key with a character that does not come again stands nowhere behind. -/
theorem afterLast?_append {u v : List Char} {x : Char} (front : List Char) {text : List Char}
    (hx : x ∉ v ++ text) :
    afterLast? (u ++ x :: v) (front ++ (u ++ x :: (v ++ text))) = some text := by
  induction front with
  | nil =>
    obtain ⟨c, tail, htail⟩ := List.exists_cons_of_ne_nil
      (List.append_ne_nil_of_right_ne_nil u (List.cons_ne_nil x (v ++ text)))
    have hhere : dropStart? (u ++ x :: v) (c :: tail) = some text := by
      rw [← htail, ← List.cons_append, ← List.append_assoc]
      exact dropStart?_append _ _
    have hlater : afterLast? (u ++ x :: v) tail = none := by
      by_contra hsome
      obtain ⟨rest, hrest⟩ := Option.ne_none_iff_exists'.mp hsome
      obtain ⟨back, rfl⟩ := exists_append_of_afterLast? hrest
      -- the character of the key would come again in the text behind it
      have hsame : u ++ x :: (v ++ text) = (c :: (back ++ u)) ++ x :: (v ++ rest) := by
        rw [htail]
        simp
      have hlength := congrArg List.length hsame
      rcases List.append_eq_append_iff.mp hsame with ⟨w, hw, hrest⟩ | ⟨w, hw, -⟩
      · cases w with
        | nil =>
          have := congrArg List.length hw
          simp at this
          omega
        | cons y w =>
          refine hx ?_
          rw [(List.cons.inj hrest).2]
          simp
      · have := congrArg List.length hw
        simp at this
        omega
    rw [List.nil_append, htail, afterLast?, hlater]
    exact hhere
  | cons c front ih => rw [List.cons_append, afterLast?, ih]

/-! ### The main function -/

/-- The texts around the registrations in a main function: the signature stands in front of them,
and the statements of its body are not taken for registrations. -/
structure Encloses (front back : List Char) : Prop where
  signature : '\n' :: mainSignature <+: front
  bracket : '[' ∉ front.drop (mainSignature.length + 1) ++ back
  before : ∀ statement ∈ (splitBy (· = ';') (front.drop (mainSignature.length + 1))).dropLast,
    registers statement = false
  behind : ∀ statement ∈ splitBy (· = ';') back, registers statement = false
  lead : ∀ x ∈ ['<', '&', '"', ';'],
    x ∉ ((splitBy (· = ';') (front.drop (mainSignature.length + 1))).getLastD [])

instance (front back : List Char) : Decidable (Encloses front back) :=
  decidable_of_iff ('\n' :: mainSignature <+: front ∧
      '[' ∉ front.drop (mainSignature.length + 1) ++ back ∧
      (∀ statement ∈ (splitBy (· = ';') (front.drop (mainSignature.length + 1))).dropLast,
        registers statement = false) ∧
      (∀ statement ∈ splitBy (· = ';') back, registers statement = false) ∧
      (['<', '&', '"', ';'].all fun x => decide (x ∉
        (splitBy (· = ';') (front.drop (mainSignature.length + 1))).getLastD [])) = true)
    ⟨fun ⟨h1, h2, h3, h4, h5⟩ =>
        ⟨h1, h2, h3, h4, fun x hx => of_decide_eq_true (List.all_eq_true.mp h5 x hx)⟩,
      fun ⟨h1, h2, h3, h4, h5⟩ =>
        ⟨h1, h2, h3, h4, List.all_eq_true.mpr fun x hx => decide_eq_true (h5 x hx)⟩⟩

/-- What stands around the second of two placeholders, the first of which is filled. -/
def around? (value : List Char) (layout : Layout) : Option (List Char × List Char) :=
  match layout.slots with
  | [first, second] =>
    some (layout.front ++ value ++ first.next :: first.text, second.next :: second.text)
  | _ => none

/-- The main function of a harness with the default settings encloses its registrations. -/
theorem exists_encloses : ∃ front back, Encloses front back ∧ ∀ cases ≠ [],
    mainFunction {} cases = front ++ (registrationBlock cases ++ back) := by
  have haround : (around? "smlt::test::TestRunner".toList mainLayout).any
      (fun texts => Encloses texts.1 texts.2) = true := by
    apply of_lines (P := fun text =>
      (around? "smlt::test::TestRunner".toList (Layout.ofTemplate text)).any
        (fun texts => Encloses texts.1 texts.2) = true)
    · repeat apply map_toList_cons
      exact List.map_nil
    · decide +kernel
  obtain ⟨x, s, y, t, hslots⟩ := exists_slots_eq mainLayout_spec.1.map_name
  rw [around?, hslots] at haround
  refine ⟨_, _, of_decide_eq_true haround, fun cases hcases => ?_⟩
  rw [mainFunction_eq_fill (by decide) hcases, Layout.fill, hslots]
  simp [Slot.fill, mainValues, List.lookup_cons]

/-! ### The whole program -/

theorem bracket_notMem_registrationBlock {cases : List TestCase} (hcases : ∀ c ∈ cases, c.Plain) :
    '[' ∉ registrationBlock cases := by
  intro hmem
  rcases mem_join hmem with hnewline | ⟨text, htext, hmem⟩
  · exact absurd hnewline (by decide)
  · obtain ⟨c, hc, rfl⟩ := List.mem_map.mp htext
    rw [registration_eq (hcases c hc), List.mem_append] at hmem
    have hforeign : Foreign '[' := by decide +kernel
    rcases hmem with hmem | hmem
    · exact notMem_registrationBody (hcases c hc) (by decide) (by decide) hforeign hmem
    · exact absurd hmem (by decide)

theorem mainSignature_eq :
    mainSignature = "int main(int argc, char* argv".toList ++ '[' :: "])".toList := by
  decide

/-- The registrations of a main function are those between the texts around them. -/
theorem filter_registers_splitBy {cases : List TestCase} (hcases : ∀ c ∈ cases, c.Plain)
    (hne : cases ≠ []) {front back : List Char} (h : Encloses front back) :
    ((splitBy (· = ';') (front.drop (mainSignature.length + 1) ++
      (registrationBlock cases ++ back))).filter registers).map Statement.read =
        cases.map Statement.ofCase := by
  obtain ⟨pieces, hpieces, hreads, hopenings⟩ :=
    exists_splitBy_registrationBlock hcases hne h.lead back
  have hregisters : ∀ piece ∈ pieces, registers piece = true := by
    intro piece hpiece
    have hword : "runner->register_case<".toList <:+: openingText ++ ['<'] := by decide +kernel
    exact decide_eq_true (hword.trans (hopenings piece hpiece))
  have hnone : ∀ statements : List (List Char),
      (∀ statement ∈ statements, registers statement = false) →
        statements.filter registers = [] := by
    intro statements hall
    exact List.filter_eq_nil_iff.mpr fun statement hmem => by simp [hall statement hmem]
  rw [splitBy_append, hpieces, List.filter_append, List.filter_append, hnone _ h.before,
    hnone _ h.behind, List.filter_eq_self.mpr hregisters, List.nil_append, List.append_nil, hreads]

/-- A program without test cases has no statement that registers one. -/
theorem emptyMain_spec : '\n' :: mainSignature <+: emptyMain ∧
    '[' ∉ emptyMain.drop (mainSignature.length + 1) ∧
    ∀ statement ∈ splitBy (· = ';') (emptyMain.drop (mainSignature.length + 1)),
      registers statement = false := by
  apply of_lines (P := fun text => '\n' :: mainSignature <+: text ∧
    '[' ∉ text.drop (mainSignature.length + 1) ∧
    ∀ statement ∈ splitBy (· = ';') (text.drop (mainSignature.length + 1)),
      registers statement = false)
  · repeat apply map_toList_cons
    exact List.map_nil
  · decide +kernel

/-- What is read from a program is what its main function has behind the signature. -/
theorem registrations_of_mainFunction {cases : List TestCase} {body : List Char}
    (hmain : mainFunction {} cases = '\n' :: (mainSignature ++ body)) (hbody : '[' ∉ body) :
    registrations (emit {} cases) =
      ((splitBy (· = ';') body).filter registers).map Statement.read := by
  have hbracket : '[' ∉ "])".toList ++ body := by
    rw [List.mem_append, not_or]
    exact ⟨by decide, hbody⟩
  have hprogram : (emit {} cases).toList = (preamble {} cases ++ ['\n']) ++
      ("int main(int argc, char* argv".toList ++ '[' :: ("])".toList ++ body)) := by
    rw [toList_emit, hmain, mainSignature_eq]
    simp only [List.append_assoc, List.cons_append, List.nil_append]
  have hlast := afterLast?_append (u := "int main(int argc, char* argv".toList)
    (preamble {} cases ++ ['\n']) hbracket
  rw [← mainSignature_eq, ← hprogram] at hlast
  rw [registrations, hlast, Option.getD_some]

theorem eq_append_drop {s t : List Char} (h : s <+: t) : t = s ++ t.drop s.length := by
  obtain ⟨rest, rfl⟩ := h
  rw [List.drop_left]

/-- **The registrations of a whole program** are those of the test cases it was made for. -/
theorem registrations_emit {cases : List TestCase} (hcases : ∀ c ∈ cases, c.Plain) :
    registrations (emit {} cases) = cases.map Statement.ofCase := by
  by_cases hne : cases = []
  · subst hne
    obtain ⟨hstart, hbracket, hnone⟩ := emptyMain_spec
    have hmain : mainFunction {} [] = '\n' :: (mainSignature ++
        emptyMain.drop (mainSignature.length + 1)) := eq_append_drop hstart
    rw [registrations_of_mainFunction hmain hbracket,
      List.filter_eq_nil_iff.mpr fun statement hs => by simp [hnone statement hs]]
    rfl
  · obtain ⟨front, back, hencloses, hmain⟩ := exists_encloses
    have hfront : front = '\n' :: (mainSignature ++ front.drop (mainSignature.length + 1)) :=
      eq_append_drop hencloses.signature
    have hbracket := hencloses.bracket
    rw [List.mem_append, not_or] at hbracket
    have hbody : '[' ∉ front.drop (mainSignature.length + 1) ++
        (registrationBlock cases ++ back) := by
      simp only [List.mem_append, not_or]
      exact ⟨hbracket.1, bracket_notMem_registrationBlock hcases, hbracket.2⟩
    have htext : mainFunction {} cases = '\n' :: (mainSignature ++
        (front.drop (mainSignature.length + 1) ++ (registrationBlock cases ++ back))) := by
      rw [hmain cases hne, ← List.append_assoc mainSignature, ← List.cons_append, ← hfront]
    rw [registrations_of_mainFunction htext hbody, filter_registers_splitBy hcases hne hencloses]

/-- The names in a program are the listed tests. -/
theorem displayNames_emit {cases : List TestCase} (hcases : ∀ c ∈ cases, c.Plain) :
    displayNames (emit {} cases) = listTests cases := by
  rw [displayNames, registrations_emit hcases, flatMap_names_ofCase]

end HeaderSurvey.Harness
