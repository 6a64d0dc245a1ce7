import HeaderSurvey.Proofs.Declaration.LineEnd

/-!
# The bodies of definitions

A definition has the form of a prototype with a body behind it (`IsDefinition`).  The walk over the
routines never goes into such a body: it takes the definition for what it is, or it is in a larger
block there, or in a match that has begun on an earlier line and ends at the same place
(`IsDefinition.exists_block_around`).  So no routine is read in the body of a definition
(`SourceUnit.not_contains_of_isDefinition`).

The form of a prototype asks for a return type.  A constructor has none, so its body is searched for
routines like any other text (`SourceUnit.not_skipped_behind_paren`).
-/

namespace HeaderSurvey

open Pattern

/-- The match is the head of a definition in the text: it begins outside of the heads of templates,
passes over no semicolon and no brace, and behind it stands the body. -/
structure IsDefinition (text : List Char) (head : Match) (body : Braces) : Prop where
  text_eq : head.start.text = text
  matchAt : routinePattern.matchAt? head.start = some head
  plain : ∀ x ∈ head.start.upTo head.stop, isParamChar x = true
  outside : ¬ InTemplateHead head.start
  body_eq : bracesAt head.stop = .ok (some body)

section IsDefinition

variable {text : List Char} {head : Match} {body : Braces}

/-! ### What stands in front of the body -/

/-- From the start of a definition to its body neither semicolons nor braces are passed over. -/
theorem IsDefinition.isParamChar_of_mem (h : IsDefinition text head body) :
    ∀ x ∈ head.start.upTo body.opening, isParamChar x = true := by
  intro x hx
  rw [← Cursor.upTo_append (le_of_matchAt? h.matchAt) (Braces.le_opening h.body_eq),
    List.mem_append] at hx
  rcases hx with hx | hx
  · exact h.plain x hx
  · rw [Braces.opening_eq_skipWhile h.body_eq] at hx
    exact isParamChar_of_class (by decide) (Cursor.of_mem_upTo_skipWhile hx)

/-- A closing parenthesis stands in the head. -/
theorem IsDefinition.exists_close (h : IsDefinition text head body) :
    ∃ d rest, head.start ≤ d ∧ d < head.stop ∧ d.rest = ')' :: rest := by
  obtain ⟨b, ⟨before, rest⟩, hb, hbe, -, hends, -⟩ := exists_endsAt h.matchAt
  obtain ⟨before, rfl⟩ := hends.close
  have hlt : (⟨before, ')' :: rest⟩ : Cursor) < ⟨')' :: before, rest⟩ :=
    (Cursor.lt_iff_of_le (Cursor.le_next before ')' rest)).mpr (by simp)
  exact ⟨_, rest, Cursor.le_of_lt_next (hb.trans_lt hbe), hlt.trans_le hends.le_stop, rfl⟩

/-! ### Which block the body is in -/

/-- A match that has begun before and goes on where a definition begins ends where its head does. -/
theorem IsDefinition.stop_eq_of_over (h : IsDefinition text head body) {m : Match}
    (hm : routinePattern.matchAt? m.start = some m) (hlt : m.start < head.start)
    (hover : head.start < m.stop) : m.stop = head.stop := by
  obtain ⟨b, e, hb, hbe, hplain, hends, hlines⟩ := exists_endsAt hm
  obtain ⟨b', e', hb', hbe', -, hends', -⟩ := exists_endsAt h.matchAt
  have hline := isLineStart_of_matchAt? h.matchAt
  have htext : head.start.text = b.text :=
    (Cursor.text_eq_of_le hlt.le).symm.trans (Cursor.text_eq_of_le hb)
  -- the head begins behind the template head of the match, in front of its last parenthesis
  have hfront : b < head.start :=
    (Cursor.lt_or_le_of_text_eq htext.symm).resolve_right fun hle =>
      h.outside (hlines head.start hlt hle hline)
  have hback : head.start ≤ e := by
    have htext' := htext.trans (Cursor.text_eq_of_le hbe.le)
    refine (Cursor.lt_or_le_of_text_eq htext'.symm).resolve_left fun hbehind => ?_
    have hmem := Cursor.upTo_subset_left hbehind.le hover.le (Cursor.newline_mem_upTo hbehind hline)
    exact absurd (hends.isQualifierChar_of_mem _ hmem) (by decide)
  have hle' := hb'.trans hbe'.le
  exact hends.stop_eq_stop hends' hback hle'
    (fun x hx => hplain x (Cursor.upTo_subset_right hfront.le hback hx))
    (fun x hx => h.plain x (Cursor.upTo_subset_left hle' hends'.le_stop hx))

/-- The body of a definition that begins between a keyword and the end of its block is in that
block. -/
theorem IsDefinition.within_of_lt_outside (h : IsDefinition text head body) {c : Cursor}
    {outer : Braces} (houter : bracesAt c = .ok (some outer)) (hle : c ≤ head.start)
    (hlt : head.start < outer.outside) :
    outer.opening < body.opening ∧ body.closing < outer.closing := by
  have hstart := le_of_matchAt? h.matchAt
  have htext : outer.opening.text = head.start.text :=
    (Cursor.text_eq_of_le (Braces.le_opening houter)).symm.trans (Cursor.text_eq_of_le hle)
  -- between the keyword and its brace are only blanks, and the head holds a parenthesis
  have hopening : outer.opening < head.start := by
    refine (Cursor.lt_or_le_of_text_eq htext).resolve_right fun hopening => ?_
    have htext' := htext.trans (Cursor.text_eq_of_le hstart)
    rcases Cursor.lt_or_le_of_text_eq htext' with hinside | hbehind
    · obtain ⟨rest, hrest⟩ := Braces.exists_rest_opening houter
      exact absurd (h.plain _ (Cursor.mem_upTo_of_rest hopening hinside hrest)) (by decide)
    · obtain ⟨d, rest, hd, hdstop, hrest⟩ := h.exists_close
      have hmem := Cursor.mem_upTo_of_rest (hle.trans hd) (hdstop.trans_le hbehind) hrest
      rw [Braces.opening_eq_skipWhile houter] at hmem
      exact absurd (Cursor.of_mem_upTo_skipWhile hmem) (by decide)
  have hbody := hopening.trans_le (hstart.trans (Braces.le_opening h.body_eq))
  refine ⟨hbody, (Braces.nested_or_apart houter h.body_eq hbody).resolve_left fun hapart => ?_⟩
  obtain ⟨rest, hrest⟩ := Braces.exists_rest_closing houter
  have hmem := Cursor.mem_upTo_of_rest (Braces.le_closing houter hlt) hapart hrest
  exact absurd (h.isParamChar_of_mem _ hmem) (by decide)

/-- A block that is not over where a definition begins has the body of the definition in it. -/
theorem IsDefinition.exists_outer (h : IsDefinition text head body) {b : Block}
    (hb : b.IsReported routinePattern) (hstart : b.keyword.start ≤ head.start)
    (hstop : head.start < b.stop) :
    ∃ outer, b.braces = some outer ∧ outer.opening ≤ body.opening ∧
      body.closing ≤ outer.closing := by
  have hbraces := hb.braces_eq
  -- if the keyword ends where the head does, the body is that of the definition
  have hsame : b.keyword.stop = head.stop → ∃ outer, b.braces = some outer ∧
      outer.opening ≤ body.opening ∧ body.closing ≤ outer.closing := by
    intro heq
    rw [heq, h.body_eq] at hbraces
    exact ⟨body, (Except.ok.inj hbraces).symm, le_refl _, le_refl _⟩
  rcases eq_or_lt_of_le hstart with heq | hlt
  · have hkeyword := hb.matchAt
    rw [heq] at hkeyword
    exact hsame (congrArg Match.stop (Option.some.inj (hkeyword.symm.trans h.matchAt)))
  have htext := (Cursor.text_eq_of_le hlt.le).symm.trans (Cursor.text_eq_of_le hb.start_lt_stop.le)
  rcases Cursor.lt_or_le_of_text_eq htext with hover | hbehind
  · exact hsame (h.stop_eq_of_over hb.matchAt hlt hover)
  · rw [Block.stop] at hstop
    rcases houter : b.braces with _ | outer
    · rw [houter] at hstop
      exact absurd hstop hbehind.not_gt
    · rw [houter] at hstop hbraces
      obtain ⟨hopening, hclosing⟩ := h.within_of_lt_outside hbraces hbehind hstop
      exact ⟨outer, rfl, hopening.le, hclosing.le⟩

/-- **A walk over the routines has a block with the body of every definition in it.** -/
theorem IsDefinition.exists_block_around {unit : SourceUnit} {bs : List Block}
    (hbs : (routineScanner unit).blocks = .ok bs)
    (h : IsDefinition unit.text.toList head body) :
    ∃ b ∈ bs, ∃ outer, b.braces = some outer ∧ outer.opening ≤ body.opening ∧
      body.closing ≤ outer.closing := by
  have hresults := Scanner.results_of_blocks_eq_ok hbs
  have hle : Cursor.atStart unit.text.toList ≤ head.start := by
    rw [← h.text_eq]
    exact ⟨head.start.before.reverse, rfl, by simp [Cursor.atStart]⟩
  have hnonempty : ∀ d m, routinePattern.matchAt? d = some m → m.start < m.stop := by
    intro d m hm
    obtain ⟨b, e, hb, hbe, -, hends, -⟩ := exists_endsAt hm
    rw [start_of_matchAt? hm]
    exact (hb.trans_lt hbe).trans_le hends.le_stop
  have herror : ∀ e, .error e ∉ (routineScanner unit).results := by
    simp [hresults]
  obtain ⟨b, hb, hstart, hstop⟩ :=
    Scanner.exists_mem_results_over (s := routineScanner unit) rfl hle hnonempty herror h.matchAt
  rw [hresults] at hb
  have hmem : b ∈ bs := (List.mem_map_of_injective fun _ _ => Except.ok.inj).mp hb
  exact ⟨b, hmem, h.exists_outer (Scanner.isReported_of_mem_blocks hbs hmem).1 hstart hstop⟩

end IsDefinition

/-- **No routine is read in the body of a definition** that has the form of a prototype, in any text
that parses. -/
theorem SourceUnit.not_contains_of_isDefinition {unit : SourceUnit} {d : Declarations}
    {head : Match} {body : Braces} (h : unit.parse .typesAndRoutines = .ok d)
    (hdefinition : IsDefinition unit.text.toList head body) :
    ∀ r ∈ d.routines, (body.inside.span body.closing).contains r.offset = false := by
  obtain ⟨types, -, -, hroutines⟩ := SourceUnit.parse_typesAndRoutines_eq_ok h
  obtain ⟨bs, hbs, hread⟩ := extractRoutines_eq_ok_iff.mp hroutines
  have hreported : ∀ b ∈ bs, b.IsReported routinePattern :=
    fun b hb => (Scanner.isReported_of_mem_blocks hbs hb).1
  have hstops := @Scanner.stop_pairwise_of_blocks_eq_ok (routineScanner unit) rfl bs hbs
  obtain ⟨b, hb, outer, hbraces, hopening, hclosing⟩ := hdefinition.exists_block_around hbs
  have hspan : b.bodySpan? = some (outer.inside.span outer.closing) := by
    rw [(hreported b hb).bodySpan?_eq, hbraces, Option.map_some]
  intro r hr
  rw [← hread] at hr
  obtain ⟨b', hb', hroutine⟩ := List.mem_filterMap.mp hr
  have houter := not_contains_of_blocks hreported hstops hb hspan hb' hroutine
  have hopen := (hreported b hb).braces_eq
  rw [hbraces] at hopen
  have hinside := Braces.offset_inside hopen
  have hinside' := Braces.offset_inside hdefinition.body_eq
  have hle := Cursor.offset_le_of_le hopening
  have hle' := Cursor.offset_le_of_le hclosing
  rw [← Bool.not_eq_true, Span.contains_iff] at houter ⊢
  simp only [Cursor.span] at houter ⊢
  omega

/-- Behind a template and in a type stands a definition with its body on another line. -/
theorem SourceUnit.not_contains_of_isDefinition_inline :
    let pre := "template <class T>\nT twice(T x);\nstruct Runner \x7b\n".toList
    let line := " void run() const".toList
    let body := "\n  Lock guard(mutex);\n ".toList
    let post := "\n void stop();\n\x7d;\n".toList
    let block := "\n ".toList ++ '{' :: (body ++ '}' :: post)
    let unit : SourceUnit := ⟨"a.h", String.ofList (pre ++ (line ++ block)), 0⟩
    let braces := Braces.around (pre ++ line ++ "\n ".toList) body post
    let routines : List Routine :=
      [⟨"twice", "T", "T x", .file, 19, 2⟩, ⟨"stop", "void", "", .type "Runner", 95, 8⟩]
    (∃ d, unit.parse .typesAndRoutines = .ok d ∧ d.routines = routines) ∧
      (∃ head, head.start.before = pre.reverse ∧ IsDefinition unit.text.toList head braces) ∧
      ∀ r ∈ routines, (braces.inside.span braces.closing).contains r.offset = false := by
  intro pre line body post block unit braces routines
  have hparse : unit.parse .typesAndRoutines = .ok
      { types := [⟨.structWord, "Runner", [], "a.h", 0, 3, ⟨33, 109⟩, ⟨48, 108⟩,
          "\n void run() const\n \x7b\n  Lock guard(mutex);\n \x7d\n void stop();\n"⟩]
        routines := routines } := by
    decide +kernel
  have hstop : (routinePattern.matchAt? (Cursor.between pre (line ++ block))).map (·.stop) =
      some (Cursor.between (pre ++ line) block) := by
    decide +kernel
  obtain ⟨head, hmatch, hstop⟩ := Option.map_eq_some_iff.mp hstop
  have hstart := start_of_matchAt? hmatch
  have hdefinition : IsDefinition unit.text.toList head braces := by
    refine ⟨?_, by rw [hstart]; exact hmatch, ?_, ?_, ?_⟩
    · rw [hstart]
      decide +kernel
    · rw [hstart, hstop, Cursor.upTo_between]
      decide
    · rw [hstart]
      exact not_inTemplateHead (by decide)
    · rw [hstop]
      decide +kernel
  exact ⟨⟨_, hparse, rfl⟩, ⟨head, by rw [hstart]; rfl, hdefinition⟩,
    SourceUnit.not_contains_of_isDefinition hparse hdefinition⟩

/-- The body behind a closing parenthesis may hold routines: that of a constructor is searched. -/
theorem SourceUnit.not_skipped_behind_paren :
    ¬ ∀ (unit : SourceUnit) (d : Declarations) (front blanks body post : List Char),
      Balanced unit.text.toList → unit.parse .typesAndRoutines = .ok d →
      unit.text.toList = front ++ ')' :: (blanks ++ '{' :: (body ++ '}' :: post)) →
      (∀ x ∈ blanks, isBlank x = true) → Balanced body →
      ∀ r ∈ d.routines, ¬ (Text.byteLength (front ++ ')' :: (blanks ++ ['{'])) ≤ r.offset ∧
        r.offset < Text.byteLength (front ++ ')' :: (blanks ++ '{' :: body))) := by
  intro h
  let front := "struct Runner \x7b\n    Runner(".toList
  let body := "\n        Lock guard(mutex);\n    ".toList
  let text := front ++ ')' :: ([' '] ++ '{' :: (body ++ '}' :: "\n\x7d;\n".toList))
  let guard : Routine := ⟨"guard", "Lock", "mutex", .type "Runner", 39, 3⟩
  have hparse : (⟨"a.h", String.ofList text, 0⟩ : SourceUnit).parse .typesAndRoutines = .ok
      { types := [⟨.structWord, "Runner", [], "a.h", 0, 1, ⟨0, 65⟩, ⟨15, 64⟩,
          "\n    Runner() \x7b\n        Lock guard(mutex);\n    \x7d\n"⟩]
        routines := [guard] } := by
    decide +kernel
  exact h _ _ front [' '] body "\n\x7d;\n".toList (by decide +kernel) hparse (by decide +kernel)
    (by decide) (by decide) guard (List.mem_singleton_self _) (by decide)

end HeaderSurvey
