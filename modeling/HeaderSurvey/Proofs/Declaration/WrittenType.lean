import HeaderSurvey.Proofs.Declaration.ClassName
import HeaderSurvey.Proofs.Declaration.Failure
import HeaderSurvey.Proofs.Declaration.WrittenBases

/-!
# A type with written bases

A text that declares a type with a list of bases, with any comments in the list, holds this one type
with these bases (`WrittenType.extractTypes_text`).

The walk over the routines knows no comments.  It leaves the type as it is, but it can take a comment
for the head of a definition and fail at the brace in it: `SourceUnit.parse_writtenType` says what
parsing gives in both modes.
-/

namespace HeaderSurvey

open Pattern

/-- A type without members as it is written, behind nothing else. -/
structure WrittenType where
  keyword : TypeKeyword
  name : Identifier
  bases : WrittenBases

namespace WrittenType

variable (t : WrittenType)

def head : List Char :=
  t.keyword.text.toList ++ ' ' :: (t.name.text ++ ' ' :: ':' :: t.bases.text)

def text : List Char :=
  t.head ++ ['{', '}']

/-- The unit that holds nothing but the type. -/
def unit (path : String) (fileId : Nat) : SourceUnit :=
  ⟨path, String.ofList t.text, fileId⟩

/-- The declaration that the text stands for. -/
def decl (path : String) (fileId : Nat) : TypeDecl where
  keyword := t.keyword
  name := String.ofList t.name.text
  bases := t.bases.names
  path := path
  fileId := fileId
  line := 1
  span := ⟨0, Text.byteLength t.text⟩
  bodySpan := ⟨Text.byteLength (t.head ++ ['{']), Text.byteLength (t.head ++ ['{'])⟩
  body := ""

/-- What a match of the head captures, and where it stands. -/
structure IsHead (post : List Char) (m : Match) : Prop where
  start_eq : m.start = Cursor.between [] (t.head ++ '{' :: post)
  stop_eq : m.stop = Cursor.between t.head ('{' :: post)
  keyword_eq : m.captured? 1 = some t.keyword.text.toList
  name_eq : m.captured? 2 = some t.name.text
  bases_eq : ((m.captured? 3).map parseBases).getD [] = t.bases.names

/-- **The pattern takes the head of a written type**, with its whole list of bases. -/
theorem exists_matchAt?_head (post : List Char) :
    ∃ m, typePattern.matchAt? (Cursor.between [] (t.head ++ '{' :: post)) = some m ∧
      t.IsHead post m := by
  -- how many of the blanks behind the colon belong to the list is not known in advance
  obtain ⟨x, s, htext, hx⟩ := t.bases.exists_text_eq
  let ahead := ' ' :: ':' :: (t.bases.text ++ '{' :: post)
  let pre := [] ++ t.keyword.text.toList ++ [' '] ++ t.name.text
  let g := headCaptures t.keyword t.name.text [] ahead
  obtain ⟨front, list, hlist, hfront, hrun⟩ :=
    @Commented.exists_run_list (pre ++ [' '] ++ [':']) post t.bases.text t.bases.plain g
      (fun d g => some (d, g)) t.bases.commented succeeds_some x s htext hx
  have hsplit : t.head ++ '{' :: post =
      t.keyword.text.toList ++ ' ' :: (t.name.text ++ ahead) := by
    simp [head, ahead]
  have hstop : pre ++ [' '] ++ [':'] ++ t.bases.text = t.head := by
    simp [head, pre]
  have hlast : pre ++ [' '] ++ [':'] ++ front ++ list = t.head := by
    rw [← hstop, hlist, ← List.append_assoc]
  rw [hstop] at hrun
  have hmatch : typePattern.run (Cursor.between [] (t.head ++ '{' :: post)) []
      (fun d g => some (d, g)) =
        some (Cursor.between t.head ('{' :: post),
          (3, Cursor.between (pre ++ [' '] ++ [':'] ++ front) (list ++ '{' :: post),
            Cursor.between t.head ('{' :: post)) :: g) := by
    rw [hsplit]
    -- the name, no word `final`, the blank and the colon, and then the list
    refine run_typePattern_name t.keyword t.name.first_ok t.name.others_ok rfl
      (Text.forall_head (by decide)) ?_
    rw [run_optional_final (by decide) (by decide)]
    apply run_optional_of_some
    rw [run_seq, run_seq, run_seq]
    have hlit : lit ":" = literal [':'] := rfl
    refine @run_many_of_some g _ _ isBlank pre [' '] _ (List.forall_mem_singleton.mpr rfl)
      (Text.forall_head (by decide)) ?_
    rw [hlit]
    exact (@run_literal_between g _ (pre ++ [' ']) [':'] _).trans hrun
  refine ⟨_, matchAt?_of_run hmatch, ⟨rfl, rfl, ?_, ?_, ?_⟩⟩
  · exact congrArg some (Cursor.upTo_between _ _ _)
  · exact congrArg some (Cursor.upTo_between _ _ _)
  · rw [← hlast, captured?_cons, Option.map_some, Option.getD_some,
      t.bases.parseBases_text hlist hfront]

/-- The block of the head and the braces behind it is read as the declaration. -/
theorem typeOfBlock?_eq_decl {path : String} {fileId : Nat} {b : Block}
    (hm : t.IsHead ['}'] b.keyword) (hb : b.braces = some (Braces.around t.head [] [])) :
    typeOfBlock? (t.unit path fileId) b = some (t.decl path fileId) := by
  have henum : isAfterEnum b.keyword.start = false := by
    rw [hm.start_eq]
    rfl
  have hspan : b.span = ⟨0, Text.byteLength t.text⟩ := by
    rw [Block.span, Cursor.span, Block.stop_of_around hb, hm.start_eq, Cursor.offset_between,
      Cursor.offset_between]
    have hnone : Text.byteLength [] = 0 := rfl
    simp [text, hnone]
  have hline : b.keyword.start.line = 1 := by
    rw [hm.start_eq, Cursor.line_between]
    rfl
  rw [typeOfBlock?, Block.body?_of_around hb, Block.bodySpan?_of_around hb, henum, hm.keyword_eq,
    hm.name_eq, hm.bases_eq, hline, hspan]
  simp only [Option.bind_eq_bind, Option.bind_some, Bool.false_eq_true, ↓reduceIte,
    keyword_of_text, List.append_nil]
  rfl

/-- **The text holds one type**, with exactly its bases, whatever its comments hold. -/
theorem extractTypes_text (path : String) (fileId : Nat) :
    extractTypes (t.unit path fileId) = .ok [t.decl path fileId] := by
  obtain ⟨m, hmatch, hm⟩ := t.exists_matchAt?_head ['}']
  have hne : t.head ≠ [] := by simp [head]
  have hlt : m.start < m.stop := by
    rw [hm.start_eq, hm.stop_eq]
    exact Cursor.between_lt_between [] _ hne
  have hbraces : bracesAt m.stop = .ok (some (Braces.around t.head [] [])) := by
    refine bracesAt_of_balanced ?_ balanced_nil
    rw [hm.stop_eq, Cursor.skipWhile_between_cons _ _ (by decide)]
    rfl
  -- the search goes on at the brace, behind all comments
  have hbehind : ReadsTypes (t.unit path fileId) m.stop [] := by
    rw [hm.stop_eq]
    refine @readsTypes_skip_of_forall _ t.head [] [] ['{', '}'] ?_ (Scanner.reads_end _)
    exact List.all_iff_forall_prop.mp (by decide)
  have hreads := Scanner.reads_block (f := typeOfBlock? (t.unit path fileId))
    (b := ⟨m, some (Braces.around t.head [] [])⟩) hmatch hlt hbraces hbehind
  rw [t.typeOfBlock?_eq_decl hm rfl] at hreads
  refine extractTypes_of_reads ?_
  rw [unit, String.toList_ofList]
  exact hreads

end WrittenType

/-- **A type with written bases is read back.**  The walk over the types finds it and nothing else,
with exactly the names of its bases in order.  With the routines the type stays the same if the text
parses, and it does if all opening braces, those of the comments included, have partners. -/
theorem SourceUnit.parse_writtenType (t : WrittenType) (path : String) (fileId : Nat) :
    (t.unit path fileId).parse .types = .ok ⟨[t.decl path fileId], []⟩ ∧
      (∀ d, (t.unit path fileId).parse .typesAndRoutines = .ok d →
        d.types = [t.decl path fileId]) ∧
      (AllClosed (t.unit path fileId).text.toList →
        ∃ routines, (t.unit path fileId).parse .typesAndRoutines =
          .ok ⟨[t.decl path fileId], routines⟩) := by
  have htypes : (t.unit path fileId).parse .types = .ok ⟨[t.decl path fileId], []⟩ := by
    rw [parse, t.extractTypes_text]
    rfl
  have hcases := SourceUnit.parse_routines_cases htypes
  refine ⟨htypes, fun d hd => ?_, fun hclosed => ?_⟩
  · rcases hcases with ⟨routines, hroutines⟩ | ⟨e, herror⟩
    · obtain rfl := Except.ok.inj (hd.symm.trans hroutines)
      rfl
    · rw [hd] at herror
      cases herror
  · -- an error would come from a brace without a partner
    refine hcases.resolve_right ?_
    rintro ⟨e, hparse⟩
    obtain ⟨ms, -, hin, herror⟩ := exists_failsAt (t.unit path fileId) routinePattern .afterBlock
    obtain ⟨m, hm⟩ := (herror e).mp ((SourceUnit.parse_routines_eq_error_iff htypes).mp hparse)
    exact hm.not_allClosed (hin m hm.mem).1.le hclosed

/-- Comments with braces, commas and colons of their own stand in front of the first name and behind
it, and a comma inside its template arguments. -/
theorem SourceUnit.parse_writtenType_commented :
    let bases : WrittenBases :=
      { first :=
          { lead := [.blank ' ' rfl, .block " \x7b,\x7d : ".toList (by decide)]
            access := [⟨"public".toList, [.blank ' ' rfl], by decide, by decide⟩]
            name := ⟨"a::B<int,A>", by decide, by decide, by decide⟩
            trail := [.blank ' ' rfl, .line "; \x7b\x7d".toList (by decide)] }
        others := [⟨[], [], ⟨"::C", by decide, by decide, by decide⟩, []⟩]
        lead_ok := by decide }
    let t : WrittenType := ⟨.classWord, ⟨'N', [], by decide, List.forall_mem_nil _⟩, bases⟩
    let unit := t.unit "a.h" 0
    unit.text = "class N : /* \x7b,\x7d : */public a::B<int,A> //; \x7b\x7d\n,::C\x7b\x7d" ∧
      bases.names = ["a::B<int,A>", "::C"] ∧
      unit.parse .types = .ok ⟨[t.decl "a.h" 0], []⟩ ∧
      ∃ routines, unit.parse .typesAndRoutines = .ok ⟨[t.decl "a.h" 0], routines⟩ := by
  intro bases t unit
  obtain ⟨htypes, -, hroutines⟩ := SourceUnit.parse_writtenType t "a.h" 0
  exact ⟨by decide, by decide, htypes, hroutines (by decide)⟩

/-- A comment in the list of bases may stop the walk over the routines: a line of it reads like the
head of a definition, and the brace behind this line is never closed. -/
theorem SourceUnit.not_parse_decl :
    ∃ t : WrittenType,
      (t.unit "a.h" 0).text = "class N : /*\nvoid f() \x7b*/ A \x7b\x7d" ∧
        t.bases.names = ["A"] ∧
        ¬ ∃ d, (t.unit "a.h" 0).parse .typesAndRoutines = .ok d ∧ d.types = [t.decl "a.h" 0] := by
  let base : WrittenBase :=
    { lead := [.blank ' ' rfl, .block "\nvoid f() \x7b".toList (by decide), .blank ' ' rfl]
      access := []
      name := ⟨"A", by decide, by decide, by decide⟩
      trail := [.blank ' ' rfl] }
  let t : WrittenType :=
    ⟨.classWord, ⟨'N', [], by decide, List.forall_mem_nil _⟩, ⟨base, [], by decide⟩⟩
  refine ⟨t, by decide, by decide, ?_⟩
  rintro ⟨d, hd, -⟩
  have herror : (t.unit "a.h" 0).parse .typesAndRoutines = .error ⟨⟨13, 22⟩, 1, 0⟩ := by
    decide +kernel
  exact nomatch hd.symm.trans herror

end HeaderSurvey
