import HeaderSurvey.Proofs.Block.Seam
import HeaderSurvey.Proofs.Declaration.ClassName
import HeaderSurvey.Proofs.Declaration.Nesting
import HeaderSurvey.Proofs.Declaration.RoutineReads
import HeaderSurvey.Proofs.Declaration.TypePieces
import HeaderSurvey.Proofs.Text.Replace

/-!
# The pieces of a routine in its text

A routine that is read from a text stands there: `RoutinePieces` are the stretches that the text
falls into around one prototype, and `RoutinePieces.Describes` says that the routine is what these
stretches are and that they are those of no statement and no operator.  They are not only somewhere
in the text, but where the walk over the routines has found them (`RoutinePieces.IsOf`).

The main result is `SourceUnit.holdsRoutines_of_parse`: the routines of a text that parses begin one
behind the other, on different lines, stand in the text piece by piece, and none of them begins in
the body of a definition that is passed over.
-/

namespace HeaderSurvey

open Pattern

/-! ### The pieces -/

/-- The words are those of a return type: the first one begins no statement, and none is the word
`operator`, qualified or not. -/
structure IsReturnType (words : List (List Char)) : Prop where
  first_ok : ∃ word rest, words = word :: rest ∧ String.ofList word ∉ statementWords
  operator_ok : ∀ word ∈ words, word ≠ "operator".toList ∧ ¬ "::operator".toList <:+ word

/-- The stretches that a text falls into around a prototype. -/
structure RoutinePieces where
  before : List Char
  /-- The indentation and the specifiers in front of the return type. -/
  front : List Char
  returnType : List Char
  /-- What stands between the return type and the name. -/
  marks : List Char
  name : Identifier
  /-- What stands between the name and the parenthesis. -/
  gap : List Char
  params : List Char
  /-- What stands behind the parameters and belongs to the declaration. -/
  qualifiers : List Char
  /-- What stands in front of the semicolon. -/
  blanks : List Char
  after : List Char

namespace RoutinePieces

variable (p : RoutinePieces)

/-- From the return type to the qualifiers. -/
def declaration : List Char :=
  p.returnType ++ p.marks ++ p.name.text ++ p.gap ++ '(' :: (p.params ++ ')' :: p.qualifiers)

/-- The whole text. -/
def text : List Char :=
  p.before ++ p.front ++ p.declaration ++ p.blanks ++ ';' :: p.after

/-- The pieces are those of a prototype, and the routine is what they say. -/
structure Describes (r : Routine) : Prop where
  before_ok : AtLineStart p.before
  returnType_ok : IsReturnType (Text.words p.returnType)
  marks_ne_nil : p.marks ≠ []
  marks_ok : ∀ x ∈ p.marks, isMarkChar x = true
  name_ok : String.ofList p.name.text ∉ reservedNames
  gap_ok : ∀ x ∈ p.gap, isSpaceOrTab x = true
  params_ok : ∀ x ∈ p.params, x ∉ [';', '{', '}']
  blanks_ok : ∀ x ∈ p.blanks, isBlank x = true
  name_eq : r.name = String.ofList p.name.text
  returnType_eq : r.returnType = String.ofList (Text.trim p.returnType ++ Text.trim p.marks)
  params_eq : r.params = String.ofList (Text.trim p.params)
  offset_eq : r.offset = Text.byteLength (p.before ++ p.front)
  line_eq : r.line = (p.before ++ p.front).count '\n' + 1

/-- The pieces are those that a match has kept. -/
structure IsOf (m : Match) : Prop where
  matchAt : routinePattern.matchAt? m.start = some m
  start_eq : m.start =
    Cursor.between p.before (p.front ++ p.declaration ++ p.blanks ++ ';' :: p.after)
  stop_eq : m.stop =
    Cursor.between (p.before ++ p.front ++ p.declaration) (p.blanks ++ ';' :: p.after)
  returnType_eq : (m.capture? 1).map (fun c => (c.1.before.reverse, c.1.upTo c.2)) =
    some (p.before ++ p.front, p.returnType)
  marks_eq : m.captured? 2 = some p.marks
  name_eq : m.captured? 3 = some p.name.text
  params_eq : m.captured? 4 = some p.params

end RoutinePieces

/-! ### The line of a prototype -/

/-- What a match of the line of a prototype holds from its return type on, and what is kept of
it. -/
structure LinePieces (m : Match) (start : Cursor) (returnType marks : List Char)
    (name : Identifier) (gap params qualifiers : List Char) : Prop where
  start_le : m.start ≤ start
  le_stop : start ≤ m.stop
  upTo_eq : start.upTo m.stop =
    returnType ++ marks ++ name.text ++ gap ++ '(' :: (params ++ ')' :: qualifiers)
  returnType_ok : ∃ x s, returnType = x :: s ∧ isNameStart x = true
  marks_ne_nil : marks ≠ []
  marks_ok : ∀ x ∈ marks, isMarkChar x = true
  gap_ok : ∀ x ∈ gap, isSpaceOrTab x = true
  params_ok : ∀ x ∈ params, x ∉ [';', '{', '}']
  returnType_eq : ∃ stop, m.capture? 1 = some (start, stop) ∧ start.upTo stop = returnType
  marks_eq : m.captured? 2 = some marks
  name_eq : m.captured? 3 = some name.text
  params_eq : m.captured? 4 = some params

theorem upTo_of_way_returnTypePattern {c d : Cursor} {g f : Captures}
    (h : returnTypePattern.Way c g d f) :
    c ≤ d ∧ (∃ x s, c.upTo d = x :: s ∧ isNameStart x = true) ∧ f = g := by
  have hf : f = g := h.captures_eq fun _ => rfl
  have hle := h.le
  obtain ⟨e, f', hword, hmore⟩ := h
  obtain ⟨hce, ⟨x, s, hup, hx, -⟩, -⟩ := upTo_of_way_one_many hword
  refine ⟨hle, ⟨x, s ++ e.upTo d, ?_, hx⟩, hf⟩
  rw [← Cursor.upTo_append hce hmore.le, hup, List.cons_append]

/-- A character that is neither a mark around the parameters nor one that ends them. -/
def isQualifierChar (x : Char) : Bool :=
  x ∉ ['(', ')', ';', '{', '}', '\n']

theorem over_qualifierPattern : qualifierPattern.Over (isQualifierChar · = true) := by
  have hgap : gap.Over (isQualifierChar · = true) := by
    intro x hx
    simp only [isSpaceOrTab, Bool.or_eq_true, decide_eq_true_eq] at hx
    rcases hx with rfl | rfl <;> decide
  have hword : ∀ s : String, (∀ x ∈ s.toList, isQualifierChar x = true) →
      (optional (lit s ++ gap)).Over (isQualifierChar · = true) :=
    fun s hs => Over.optional ⟨over_lit hs, hgap⟩
  have hvalue : (lit "=" ++ gap ++ (lit "0" <|> lit "default" <|> lit "delete") ++ gap).Over
      (isQualifierChar · = true) :=
    ⟨⟨⟨over_lit (by decide), hgap⟩, over_lit (by decide), over_lit (by decide),
      over_lit (by decide)⟩, hgap⟩
  exact ⟨⟨⟨⟨⟨hgap, hword _ (by decide)⟩, hword _ (by decide)⟩, hword _ (by decide)⟩,
    hword _ (by decide)⟩, hvalue.optional⟩

/-- **A match of the pattern of the routines is the line of a prototype**, piece by piece, and what
stands behind the parameters holds no mark. -/
theorem exists_linePieces_qualifiers {c : Cursor} {m : Match}
    (h : routinePattern.matchAt? c = some m) :
    ∃ start returnType marks name gap params qualifiers,
      LinePieces m start returnType marks name gap params qualifiers ∧
        ∀ x ∈ qualifiers, isQualifierChar x = true := by
  obtain ⟨hstart, -⟩ := matchAt?_eq_some_iff.mp h
  obtain ⟨c₉, _, ⟨c₈, _, ⟨c₇, _, ⟨c₆, _, ⟨c₅, _, ⟨c₄, _, ⟨c₃, _, ⟨c₂, g₂, ⟨c₁, _, ⟨c₀, _,
    ⟨-, rfl, rfl⟩, ⟨h₁, -, rfl⟩⟩, hspecifiers⟩, ⟨_, hreturn, rfl⟩⟩, ⟨_, hmarks, rfl⟩⟩,
    ⟨_, hname, rfl⟩⟩, ⟨h₆, hgap, rfl⟩⟩, hopen⟩, ⟨_, ⟨h₈, hparams, rfl⟩, rfl⟩⟩, hclose⟩,
    hqualifiers⟩ := way_of_matchAt? h
  have h₂ := hspecifiers.le
  have hcaptures := hqualifiers.captures_eq fun _ => rfl
  have h₁₀ := hqualifiers.le
  obtain ⟨h₃, hreturn_ok, rfl⟩ := upTo_of_way_returnTypePattern hreturn
  obtain ⟨h₄, ⟨y, t, hup₄, hy, ht⟩, rfl⟩ := upTo_of_way_one_many hmarks
  obtain ⟨h₅, ⟨z, u, hup₅, hz, hu⟩, rfl⟩ := upTo_of_way_one_many hname
  obtain ⟨h₇, hup₇, rfl⟩ := upTo_of_way_literal hopen
  obtain ⟨h₉, hup₉, rfl⟩ := upTo_of_way_literal hclose
  -- the stretches one behind the other, from the return type on
  have hup : c₂.upTo m.stop = c₂.upTo c₃ ++ c₃.upTo c₄ ++ (z :: u) ++ c₅.upTo c₆ ++
      '(' :: (c₇.upTo c₈ ++ ')' :: c₉.upTo m.stop) := by
    have h₂₄ := h₃.trans h₄
    have h₂₅ := h₂₄.trans h₅
    have h₂₆ := h₂₅.trans h₆
    have h₂₇ := h₂₆.trans h₇
    have h₂₈ := h₂₇.trans h₈
    rw [← Cursor.upTo_append (h₂₈.trans h₉) h₁₀, ← Cursor.upTo_append h₂₈ h₉,
      ← Cursor.upTo_append h₂₇ h₈, ← Cursor.upTo_append h₂₆ h₇, ← Cursor.upTo_append h₂₅ h₆,
      ← Cursor.upTo_append h₂₄ h₅, ← Cursor.upTo_append h₃ h₄, hup₅, hup₇, hup₉]
    simp
  refine ⟨c₂, c₂.upTo c₃, c₃.upTo c₄, ⟨z, u, hz, hu⟩, c₅.upTo c₆, c₇.upTo c₈, c₉.upTo m.stop,
    ⟨?_, ?_, hup, hreturn_ok, ?_, ?_, hgap, ?_, ⟨c₃, ?_, rfl⟩, ?_, ?_, ?_⟩,
    hqualifiers.of_mem_upTo over_qualifierPattern⟩
  · rw [hstart]
    exact h₁.trans h₂
  · exact h₃.trans (h₄.trans (h₅.trans (h₆.trans (h₇.trans (h₈.trans (h₉.trans h₁₀))))))
  · rw [hup₄]
    exact List.cons_ne_nil y t
  · rw [hup₄]
    exact List.forall_mem_cons.mpr ⟨hy, ht⟩
  · intro x hx
    simpa using hparams x hx
  · simp [Match.capture?, hcaptures]
  · simp [Match.captured?, Match.capture?, hcaptures]
  · simp [Match.captured?, Match.capture?, hcaptures, hup₅, Identifier.text]
  · simp [Match.captured?, Match.capture?, hcaptures]

theorem exists_linePieces {c : Cursor} {m : Match} (h : routinePattern.matchAt? c = some m) :
    ∃ start returnType marks name gap params qualifiers,
      LinePieces m start returnType marks name gap params qualifiers := by
  obtain ⟨start, returnType, marks, name, gap, params, qualifiers, hline, -⟩ :=
    exists_linePieces_qualifiers h
  exact ⟨start, returnType, marks, name, gap, params, qualifiers, hline⟩

/-! ### What is left out -/

/-- A text that begins with no blank begins with a word. -/
theorem exists_words_eq_cons {x : Char} {s : List Char} (hx : isBlank x = false) :
    ∃ word rest, Text.words (x :: s) = word :: rest := by
  rw [Text.words, Text.splitBy, if_neg (by simp [hx])]
  rcases Text.splitBy isBlank s with _ | ⟨piece, pieces⟩
  · exact ⟨[x], [], rfl⟩
  · exact ⟨x :: piece, _, List.filter_cons_of_pos (by simp)⟩

/-- What is no statement has a return type and a name that is not reserved. -/
theorem isReturnType_of_isStatement {returnType name : List Char} {x : Char} {s : List Char}
    (hreturn : returnType = x :: s) (hx : isNameStart x = true)
    (h : isStatement returnType name = false) :
    IsReturnType (Text.words returnType) ∧ String.ofList name ∉ reservedNames := by
  simp only [isStatement, Bool.or_eq_false_iff, isConversionOperator, List.any_eq_false,
    Bool.not_eq_true] at h
  obtain ⟨⟨hfirst, hreserved⟩, hoperator⟩ := h
  refine ⟨⟨?_, fun word hword => ?_⟩, by simpa using hreserved⟩
  · obtain ⟨word, rest, hwords⟩ := @exists_words_eq_cons x s
      (isBlank_of_isNameChar (isNameChar_of_isNameStart hx))
    rw [← hreturn] at hwords
    rw [hwords, List.headD_cons] at hfirst
    exact ⟨word, rest, hwords, by simpa using hfirst⟩
  · obtain ⟨hplain, hqualified⟩ := hoperator word hword
    refine ⟨of_decide_eq_false hplain, ?_⟩
    rintro ⟨t, rfl⟩
    rw [List.reverse_append, Text.dropStart?_append] at hqualified
    exact absurd hqualified (by simp)

/-! ### The routines of a text -/

/-- **A routine stands in its text piece by piece**, where its block does. -/
theorem exists_pieces_of_routineOfBlock? {text : List Char} {index : ScopeIndex} {b : Block}
    {r : Routine} (hb : b.IsReported routinePattern) (htext : b.keyword.start.text = text)
    (h : routineOfBlock? index b = some r) :
    ∃ p : RoutinePieces, p.text = text ∧ p.IsOf b.keyword ∧ p.Describes r := by
  obtain ⟨-, hsemicolon, start, stop, marks, name, params, hcapture, hmarks, hname, hparams,
    hstatement, hroutine⟩ := exists_of_routineOfBlock? h
  have hrname := congrArg Routine.name hroutine
  have hrtype := congrArg Routine.returnType hroutine
  have hrparams := congrArg Routine.params hroutine
  obtain ⟨start', returnType, marks', identifier, gap, params', qualifiers, hline⟩ :=
    exists_linePieces hb.matchAt
  -- the captures are those of the pieces
  obtain ⟨stop', hcapture', hreturn⟩ := hline.returnType_eq
  obtain ⟨rfl, rfl⟩ := Prod.mk.inj (Option.some.inj (hcapture'.symm.trans hcapture))
  obtain rfl := Option.some.inj (hline.marks_eq.symm.trans hmarks)
  obtain rfl := Option.some.inj (hline.name_eq.symm.trans hname)
  obtain rfl := Option.some.inj (hline.params_eq.symm.trans hparams)
  rw [hreturn] at hstatement hrtype
  obtain ⟨x, s, hx, hname_start⟩ := hline.returnType_ok
  obtain ⟨hreturn_ok, hname_ok⟩ := isReturnType_of_isStatement hx hname_start hstatement
  -- behind the match stand blanks and the semicolon
  obtain ⟨after, hafter⟩ := List.head?_eq_some_iff.mp hsemicolon
  have hstop : b.keyword.stop.rest = b.keyword.stop.rest.takeWhile isBlank ++ ';' :: after := by
    rw [← hafter, Text.trimStart, List.takeWhile_append_dropWhile]
  let p : RoutinePieces :=
    { before := b.keyword.start.before.reverse
      front := b.keyword.start.upTo start'
      returnType := returnType
      marks := marks'
      name := identifier
      gap := gap
      params := params'
      qualifiers := qualifiers
      blanks := b.keyword.stop.rest.takeWhile isBlank
      after := after }
  have hfront : start'.before.reverse = p.before ++ p.front := by
    rw [Cursor.before_eq_upTo hline.start_le, List.reverse_append, List.reverse_reverse]
  have hdeclaration : start'.upTo b.keyword.stop = p.declaration := hline.upTo_eq
  have hrest : b.keyword.start.rest = p.front ++ p.declaration ++ p.blanks ++ ';' :: p.after := by
    rw [Cursor.rest_eq_upTo hline.start_le, Cursor.rest_eq_upTo hline.le_stop, hdeclaration, hstop]
    simp [p]
  have hstart : b.keyword.start =
      Cursor.between p.before (p.front ++ p.declaration ++ p.blanks ++ ';' :: p.after) := by
    rw [← hrest]
    exact (Cursor.between_self _).symm
  refine ⟨p, ?_, ⟨hb.matchAt, hstart, ?_, ?_, hmarks, hname, hparams⟩,
    ⟨?_, hreturn_ok, hline.marks_ne_nil, hline.marks_ok, hname_ok, hline.gap_ok, hline.params_ok,
      ?_, hrname, hrtype, hrparams, ?_, ?_⟩⟩
  · rw [← htext, hstart, Cursor.text_between, RoutinePieces.text]
    simp
  · have hbefore : b.keyword.stop.before.reverse = p.before ++ p.front ++ p.declaration := by
      rw [Cursor.before_eq_upTo hline.le_stop, List.reverse_append, List.reverse_reverse, hfront,
        hdeclaration]
    rw [← hbefore, ← hstop]
    exact (Cursor.between_self _).symm
  · rw [hcapture, Option.map_some, hreturn, hfront]
  · intro rest
    have hplace := isLineStart_of_matchAt? hb.matchAt
    rw [Cursor.isLineStart] at hplace ⊢
    rw [Cursor.before_between, List.reverse_reverse]
    exact hplace
  · intro x hx
    exact List.mem_takeWhile_imp (p := isBlank) hx
  · rw [hroutine, Cursor.offset, ← hfront, Text.byteLength_reverse]
  · rw [hroutine, Cursor.line, ← hfront, List.count_reverse]

/-- The return type lies in the match. -/
theorem start_of_routineOfBlock? {index : ScopeIndex} {b : Block} {r : Routine}
    (hb : b.IsReported routinePattern) (h : routineOfBlock? index b = some r) :
    ∃ start, b.keyword.start ≤ start ∧ start < b.keyword.stop ∧ r.offset = start.offset ∧
      r.line = start.line := by
  obtain ⟨-, -, start, stop, _, _, _, hcapture, -, -, -, -, rfl⟩ := exists_of_routineOfBlock? h
  obtain ⟨start', _, _, _, _, _, _, hpieces⟩ := exists_linePieces hb.matchAt
  obtain ⟨stop', hcapture', -⟩ := hpieces.returnType_eq
  obtain ⟨rfl, -⟩ := Prod.mk.inj (Option.some.inj (hcapture'.symm.trans hcapture))
  refine ⟨start', hpieces.start_le, lt_of_le_of_ne hpieces.le_stop ?_, rfl, rfl⟩
  rintro heq
  have hup := hpieces.upTo_eq
  rw [← heq, Cursor.upTo_self] at hup
  simp at hup

/-- What is known of the routines of a text: they begin one behind the other, on different lines,
each stands in the text piece by piece where the walk has found it, and none begins in the body of a
definition. -/
structure SourceUnit.HoldsRoutines (unit : SourceUnit) (routines : List Routine) : Prop where
  pairwise_offset : routines.Pairwise fun r r' => r.offset < r'.offset
  pairwise_line : routines.Pairwise fun r r' => r.line < r'.line
  exists_blocks : ∃ bs, (routineScanner unit).blocks = .ok bs ∧
    (∀ r ∈ routines, ∃ b ∈ bs, b.braces = none ∧
      ∃ p : RoutinePieces, p.text = unit.text.toList ∧ p.IsOf b.keyword ∧ p.Describes r) ∧
    ∀ b ∈ bs, ∀ body, b.bodySpan? = some body → ∀ r ∈ routines, body.contains r.offset = false

/-- A body begins behind its keyword. -/
theorem Block.IsReported.keyword_stop_lt {p : Pattern} {b : Block} (hb : b.IsReported p)
    {body : Span} (hbody : b.bodySpan? = some body) : b.keyword.stop.offset < body.start := by
  rw [hb.bodySpan?_eq, Option.map_eq_some_iff] at hbody
  obtain ⟨braces, hbraces, rfl⟩ := hbody
  have hopening := hb.braces_eq
  rw [hbraces] at hopening
  have hle := Cursor.offset_le_of_le (Braces.le_opening hopening)
  change b.keyword.stop.offset < braces.inside.offset
  rw [Braces.offset_inside hopening]
  omega

/-- No routine begins in the body of a block: its own block has no body, the block before ends in
front of it, and the body of the block behind begins behind its keyword. -/
theorem not_contains_of_blocks {index : ScopeIndex} {bs : List Block}
    (hreported : ∀ b ∈ bs, b.IsReported routinePattern)
    (hstops : bs.Pairwise fun b b' => b.stop.offset ≤ b'.keyword.start.offset) {b b' : Block}
    (hb : b ∈ bs) {body : Span} (hbody : b.bodySpan? = some body) (hb' : b' ∈ bs) {r : Routine}
    (hr : routineOfBlock? index b' = some r) : body.contains r.offset = false := by
  have hbraces := (exists_of_routineOfBlock? hr).1
  obtain ⟨start, hstart, hstop, hoffset, -⟩ := start_of_routineOfBlock? (hreported b' hb') hr
  by_cases hsame : b = b'
  · rw [hsame, Block.bodySpan?, Block.body?, hbraces, Option.map_none, Option.map_none] at hbody
    exact absurd hbody (Option.some_ne_none body).symm
  · -- one of the two blocks ends in front of the other
    have hsymm : Std.Symm fun b₁ b₂ : Block => b₁.stop.offset ≤ b₂.keyword.start.offset ∨
        b₂.stop.offset ≤ b₁.keyword.start.offset := ⟨fun _ _ => Or.symm⟩
    have hpairwise : bs.Pairwise fun b₁ b₂ => b₁.stop.offset ≤ b₂.keyword.start.offset ∨
        b₂.stop.offset ≤ b₁.keyword.start.offset := hstops.imp Or.inl
    rcases hpairwise.forall hb hb' hsame with hle | hle
    · refine Scanner.not_contains_of_stop_le hbody ?_
      rw [hoffset]
      exact Nat.le_trans hle (Cursor.offset_le_of_le hstart)
    · have hbehind := (hreported b hb).keyword_stop_lt hbody
      have hkeyword := Cursor.offset_lt_of_lt (hreported b hb).start_lt_stop
      have hbefore := Cursor.offset_lt_of_lt hstop
      have hend : b'.stop = b'.keyword.stop := by rw [Block.stop, hbraces]
      rw [hend] at hle
      rw [Span.contains, Bool.and_eq_false_iff, decide_eq_false_iff_not]
      left
      omega

/-- **The routines of a text that parses are well formed.**  They begin one behind the other and on
different lines.  Each stands in the text where the walk over the routines has found it: at its
offset the return type that the match has kept, which is no statement and no conversion operator,
then the marks that are appended to it, an identifier that is not reserved, the parameters, and
behind the match nothing but blanks up to a semicolon.  None begins inside the body of a block that
the walk took for a definition. -/
theorem SourceUnit.holdsRoutines_of_parse {unit : SourceUnit} {d : Declarations}
    (h : unit.parse .typesAndRoutines = .ok d) : unit.HoldsRoutines d.routines := by
  obtain ⟨types, -, -, hroutines⟩ := SourceUnit.parse_typesAndRoutines_eq_ok h
  obtain ⟨bs, hbs, hread⟩ := extractRoutines_eq_ok_iff.mp hroutines
  have hreported : ∀ b ∈ bs, b.IsReported routinePattern :=
    fun b hb => (Scanner.isReported_of_mem_blocks hbs hb).1
  have hstarts : bs.Pairwise fun b b' => b.keyword.stop ≤ b'.keyword.start :=
    (Scanner.pairwise_of_blocks_eq_ok hbs).2
  have hstops := @Scanner.stop_pairwise_of_blocks_eq_ok (routineScanner unit) rfl bs hbs
  refine ⟨?_, ?_, bs, hbs, ?_, ?_⟩
  · rw [← hread, List.pairwise_filterMap]
    refine hstarts.imp_of_mem fun {b b'} hb hb' hle r hr r' hr' => ?_
    obtain ⟨start, -, hstop, hoffset, -⟩ := start_of_routineOfBlock? (hreported b hb) hr
    obtain ⟨start', hstart, -, hoffset', -⟩ := start_of_routineOfBlock? (hreported b' hb') hr'
    rw [hoffset, hoffset']
    exact Cursor.offset_lt_of_lt (hstop.trans_le (hle.trans hstart))
  · -- the second match begins at the start of a line, behind the first return type
    rw [← hread, List.pairwise_filterMap]
    refine hstarts.imp_of_mem fun {b b'} hb hb' hle r hr r' hr' => ?_
    obtain ⟨start, -, hstop, -, hline⟩ := start_of_routineOfBlock? (hreported b hb) hr
    obtain ⟨start', hstart, -, -, hline'⟩ := start_of_routineOfBlock? (hreported b' hb') hr'
    have hplace := isLineStart_of_matchAt? (hreported b' hb').matchAt
    rw [hline, hline']
    exact Nat.lt_of_lt_of_le (Cursor.line_lt_of_isLineStart (hstop.trans_le hle) hplace)
      (Cursor.line_le_of_le hstart)
  · intro r hr
    rw [← hread] at hr
    obtain ⟨b, hb, hroutine⟩ := List.mem_filterMap.mp hr
    obtain ⟨-, hle⟩ := Scanner.isReported_of_mem_blocks hbs hb
    exact ⟨b, hb, (exists_of_routineOfBlock? hroutine).1,
      exists_pieces_of_routineOfBlock? (hreported b hb) (Cursor.text_eq_of_le hle).symm hroutine⟩
  · intro b hb body hbody r hr
    rw [← hread] at hr
    obtain ⟨b', hb', hroutine⟩ := List.mem_filterMap.mp hr
    exact not_contains_of_blocks hreported hstops hb hbody hb' hroutine

/-- A template head and the parameters go over the ends of lines, a definition with a prototype in
its body is passed over, and a statement is left out. -/
theorem SourceUnit.holdsRoutines_of_parse_spread :
    let text := "template <class T>\n  T *first(int a,\n    int b) const\n;\nint twice(int x)\n" ++
      "\x7b\n int inner();\n\x7d\nreturn twice(1);\nvoid last();\n"
    let unit : SourceUnit := ⟨"a.h", text, 0⟩
    let routines : List Routine :=
      [⟨"first", "T*", "int a,\n    int b", .file, 21, 2⟩, ⟨"last", "void", "", .file, 108, 10⟩]
    unit.parse .typesAndRoutines = .ok ⟨[], routines⟩ ∧ unit.HoldsRoutines routines := by
  intro text unit routines
  have hparse : unit.parse .typesAndRoutines = .ok ⟨[], routines⟩ := by
    decide +kernel
  exact ⟨hparse, SourceUnit.holdsRoutines_of_parse hparse⟩

end HeaderSurvey
