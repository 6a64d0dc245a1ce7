import HeaderSurvey.Proofs.Declaration.TypeHead

/-!
# The lines of prototypes and definitions

Where `routinePattern` matches and where it does not.  It matches only at the start of a line
(`isLineStart_of_matchAt?`), at none that begins with something else than a name
(`matchAt?_routinePattern_of_first`), and at none in which a brace or a semicolon comes before the
first parenthesis (`matchAt?_routinePattern_of_stop`).

`RoutineLine` is a line in the form of a prototype: a return type, marks behind it, a name and
parameters.  In front of one the pattern takes the indentation, all of these and the blanks behind
them (`matchAt?_routineLine`).
-/

namespace HeaderSurvey

open Pattern

/-! ### Where no routine begins -/

/-- A match begins at the start of a line. -/
theorem isLineStart_of_matchAt? {c : Cursor} {m : Match} (h : routinePattern.matchAt? c = some m) :
    c.isLineStart = true := by
  obtain ⟨_, _, ⟨_, _, ⟨_, _, ⟨_, _, ⟨_, _, ⟨_, _, ⟨_, _, ⟨_, _, ⟨_, _, ⟨_, _, hline, _⟩, _⟩, _⟩, _⟩,
    _⟩, _⟩, _⟩, _⟩, _⟩, _⟩ := way_of_matchAt? h
  exact hline.1

theorem matchAt?_routinePattern_of_not_lineStart {c : Cursor} (h : c.isLineStart = false) :
    routinePattern.matchAt? c = none := by
  rcases hm : routinePattern.matchAt? c with _ | m
  · rfl
  · have hstart := isLineStart_of_matchAt? hm
    rw [h] at hstart
    exact absurd hstart (by decide)

/-- The characters that may stand in front of the parenthesis of a routine without a template
head. -/
def isHeadChar (x : Char) : Bool :=
  x ≠ '(' && x ≠ '{' && x ≠ '}' && x ≠ ';'

/-- A class that has none of the four other characters is one of these characters. -/
theorem isHeadChar_of_class {p : Char → Bool}
    (h : p '(' = false ∧ p '{' = false ∧ p '}' = false ∧ p ';' = false) :
    ∀ x, p x = true → isHeadChar x = true := by
  intro x hx
  simp only [isHeadChar, Bool.and_eq_true, decide_eq_true_eq]
  refine ⟨⟨⟨?_, ?_⟩, ?_⟩, ?_⟩
  · rintro rfl
    simp [h.1] at hx
  · rintro rfl
    simp [h.2.1] at hx
  · rintro rfl
    simp [h.2.2.1] at hx
  · rintro rfl
    simp [h.2.2.2] at hx

/-- The access word of a routine, with its colon. -/
def accessPattern : Pattern :=
  (lit "public" <|> lit "private" <|> lit "protected") ++ gap ++ lit ":" ++ gap

/-- The template head of a routine. -/
def templatePattern : Pattern :=
  lit "template" ++ gap ++ lit "<" ++ many (· ≠ '>') ++ lit ">" ++ many isBlank

/-- The specifiers of a routine. -/
def specifierWordsPattern : Pattern :=
  star ((lit "inline" <|> lit "constexpr" <|> lit "static" <|> lit "virtual" <|>
    lit "explicit" <|> lit "extern" <|> lit "friend") ++ oneOrMore isSpaceOrTab)

theorem specifierPattern_eq :
    specifierPattern = optional accessPattern ++ optional templatePattern ++ specifierWordsPattern :=
  rfl

theorem not_way_accessPattern {c d : Cursor} {g f : Captures} (h : ∀ rest, c.rest ≠ 'p' :: rest) :
    ¬ accessPattern.Way c g d f := by
  rintro ⟨_, _, ⟨_, _, ⟨_, _, hword, _⟩, _⟩, _⟩
  rcases hword with hlit | hlit | hlit
  all_goals exact h _ (rest_of_way_literal hlit)

theorem not_way_templatePattern {c d : Cursor} {g f : Captures} (h : ∀ rest, c.rest ≠ 't' :: rest) :
    ¬ templatePattern.Way c g d f := by
  rintro ⟨_, _, ⟨_, _, ⟨_, _, ⟨_, _, ⟨_, _, hlit, _⟩, _⟩, _⟩, _⟩, _⟩
  exact h _ (rest_of_way_literal hlit)

theorem over_gap : gap.Over (isHeadChar · = true) :=
  isHeadChar_of_class (by decide)

theorem over_specifierWordsPattern : specifierWordsPattern.Over (isHeadChar · = true) := by
  refine ⟨⟨?_, ?_, ?_, ?_, ?_, ?_, ?_⟩, isHeadChar_of_class (by decide),
    isHeadChar_of_class (by decide)⟩
  all_goals
    change ∀ x ∈ String.toList _, isHeadChar x = true
    exact List.all_eq_true.mp (by decide)

theorem over_returnTypePattern : returnTypePattern.Over (isHeadChar · = true) :=
  ⟨⟨isHeadChar_of_class (by decide), isHeadChar_of_class (by decide)⟩,
    ⟨isHeadChar_of_class (by decide), isHeadChar_of_class (by decide)⟩,
    isHeadChar_of_class (by decide), isHeadChar_of_class (by decide)⟩

theorem over_namePattern : namePattern.Over (isHeadChar · = true) :=
  ⟨isHeadChar_of_class (by decide), isHeadChar_of_class (by decide)⟩

/-- Behind some of the blanks at the start of a line the text goes on with another blank or with
what follows the blanks. -/
theorem exists_cons_of_way_gap {c d : Cursor} {g f : Captures} (h : gap.Way c g d f) {b : Blanks}
    {x : Char} {t : List Char} (hx : isSpaceOrTab x = false) (hrest : c.rest = b.text ++ x :: t) :
    ∃ y rest, d.rest = y :: rest ∧ (isSpaceOrTab y = true ∨ y = x) := by
  obtain ⟨hle, hall, -⟩ := h
  rw [Cursor.rest_eq_upTo hle] at hrest
  rcases List.append_eq_append_iff.mp hrest with ⟨s, hb, hd⟩ | ⟨s, hup, hd⟩
  · cases s with
    | nil => exact ⟨x, t, hd, Or.inr rfl⟩
    | cons y s =>
      exact ⟨y, s ++ x :: t, hd, Or.inl (b.all_blank y (by simp [hb]))⟩
  · cases s with
    | nil => exact ⟨x, t, hd.symm, Or.inr rfl⟩
    | cons y s =>
      obtain ⟨rfl, -⟩ := List.cons.inj hd
      have hblank := hall x (by simp [hup])
      rw [hx] at hblank
      exact absurd hblank (by decide)

/-- **No routine begins on a line on which a brace or a semicolon comes before the first
parenthesis**, if what stands behind the blanks begins neither an access word nor a template
head. -/
theorem matchAt?_routinePattern_of_stop {c : Cursor} {b : Blanks} {x y : Char}
    {s t t' : List Char} (hrest : c.rest = b.text ++ x :: t) (hx : isSpaceOrTab x = false)
    (hp : x ≠ 'p') (ht : x ≠ 't') (hrest' : c.rest = s ++ y :: t')
    (hs : ∀ z ∈ s, isHeadChar z = true) (hy : isHeadChar y = false) (hne : y ≠ '(') :
    routinePattern.matchAt? c = none := by
  refine matchAt?_eq_none_of_way fun d f => ?_
  rintro ⟨_, _, ⟨_, _, ⟨_, _, ⟨e, fe, ⟨_, _, ⟨_, _, ⟨_, _, ⟨_, _, ⟨c₁, f₁, ⟨c₀, f₀, hline, hgap⟩,
    hspecifiers⟩, hreturn⟩, hmarks⟩, hname⟩, hgap'⟩, hparen⟩, -⟩, -⟩, -⟩
  obtain ⟨-, rfl, rfl⟩ := hline
  obtain ⟨z, rest, hz, hzx⟩ := exists_cons_of_way_gap hgap hx hrest
  have hfirst : ∀ w, isSpaceOrTab w = false → x ≠ w → ∀ rest', c₁.rest ≠ w :: rest' := by
    intro w hw hxw rest' heq
    rw [hz] at heq
    obtain ⟨rfl, -⟩ := List.cons.inj heq
    rcases hzx with hblank | rfl
    · rw [hw] at hblank
      exact absurd hblank (by decide)
    · exact hxw rfl
  -- so the specifiers are words only
  obtain ⟨c₃, f₃, ⟨c₂, f₂, haccess, htemplate⟩, hwords⟩ := hspecifiers
  obtain ⟨rfl, rfl⟩ : c₁ = c₂ ∧ f₂ = f₁ := by
    rcases haccess with h | ⟨h, rfl⟩
    · exact absurd h (not_way_accessPattern (hfirst 'p' (by decide) hp))
    · exact ⟨Option.some.inj h, rfl⟩
  obtain ⟨rfl, rfl⟩ : c₁ = c₃ ∧ f₃ = f₂ := by
    rcases htemplate with h | ⟨h, rfl⟩
    · exact absurd h (not_way_templatePattern (hfirst 't' (by decide) ht))
    · exact ⟨Option.some.inj h, rfl⟩
  have hhead : (gap ++ specifierWordsPattern ++ capture 1 returnTypePattern ++
      capture 2 (oneOrMore fun c => isSpaceOrTab c || c = '*' || c = '&') ++
      capture 3 namePattern ++ gap).Way _ _ e fe :=
    ⟨_, _, ⟨_, _, ⟨_, _, ⟨_, _, ⟨_, _, hgap, hwords⟩, hreturn⟩, hmarks⟩, hname⟩, hgap'⟩
  have hover : (gap ++ specifierWordsPattern ++ capture 1 returnTypePattern ++
      capture 2 (oneOrMore fun c => isSpaceOrTab c || c = '*' || c = '&') ++
      capture 3 namePattern ++ gap).Over (isHeadChar · = true) :=
    ⟨⟨⟨⟨⟨over_gap, over_specifierWordsPattern⟩, over_returnTypePattern⟩,
      isHeadChar_of_class (by decide), isHeadChar_of_class (by decide)⟩, over_namePattern⟩, over_gap⟩
  have hsplit := Cursor.rest_eq_upTo hhead.le
  rw [rest_of_way_literal hparen, hrest'] at hsplit
  exact hne (Text.append_cons_inj_of_class hs (hhead.of_mem_upTo hover) hy (by decide) hsplit).2.1

theorem isNameStart_of_way_specifierWords {c d : Cursor} {g f : Captures} {x : Char}
    {rest : List Char} (h : specifierWordsPattern.Way c g d f) (hrest : c.rest = x :: rest) :
    c = d ∨ isNameStart x = true := by
  rcases Relation.ReflTransGen.cases_head h with heq | ⟨⟨e, f'⟩, ⟨e', f'', hword, -⟩, -⟩
  · exact Or.inl (congrArg Prod.fst heq)
  · right
    -- a round begins with one of the seven words, and a word begins with a letter
    rcases hword with hlit | hlit | hlit | hlit | hlit | hlit | hlit
    all_goals
      have hsplit := rest_of_way_literal hlit
      rw [hrest] at hsplit
      rw [(List.cons.inj hsplit).1]
      decide

/-- **No routine begins on a line whose first character is neither a blank nor the start of a
name.** -/
theorem matchAt?_routinePattern_of_first {c : Cursor} {x : Char} {t : List Char}
    (hrest : c.rest = x :: t) (hx : isSpaceOrTab x = false) (hname : isNameStart x = false) :
    routinePattern.matchAt? c = none := by
  refine matchAt?_eq_none_of_way fun d f => ?_
  rintro ⟨_, _, ⟨_, _, ⟨_, _, ⟨_, _, ⟨_, _, ⟨_, _, ⟨_, _, ⟨c₄, _, ⟨c₁, f₁, ⟨c₀, f₀, hline, hgap⟩,
    hspecifiers⟩, hreturn⟩, -⟩, -⟩, -⟩, -⟩, -⟩, -⟩, -⟩
  obtain ⟨-, rfl, rfl⟩ := hline
  have hne : ∀ y, isNameStart y = true → ∀ rest, c₀.rest ≠ y :: rest := by
    intro y hy rest heq
    rw [hrest] at heq
    obtain ⟨rfl, -⟩ := List.cons.inj heq
    simp [hname] at hy
  -- neither blanks nor specifiers are there, so the return type would have to begin here
  obtain rfl : c₀ = c₁ := by
    obtain ⟨hle, hall, -⟩ := hgap
    have hup := Cursor.rest_eq_upTo hle
    cases hpassed : c₀.upTo c₁ with
    | nil =>
      rw [hpassed, List.nil_append] at hup
      exact Cursor.eq_of_le_of_length_rest hle (Nat.le_of_eq (congrArg List.length hup))
    | cons y s =>
      rw [hpassed, hrest, List.cons_append] at hup
      obtain ⟨rfl, -⟩ := List.cons.inj hup
      have hblank := hall x (by simp [hpassed])
      simp [hx] at hblank
  obtain ⟨c₃, f₃, ⟨c₂, f₂, haccess, htemplate⟩, hwords⟩ := hspecifiers
  obtain rfl : c₀ = c₂ := by
    rcases haccess with h | ⟨h, -⟩
    · exact absurd h (not_way_accessPattern (hne 'p' (by decide)))
    · exact Option.some.inj h
  obtain rfl : c₀ = c₃ := by
    rcases htemplate with h | ⟨h, -⟩
    · exact absurd h (not_way_templatePattern (hne 't' (by decide)))
    · exact Option.some.inj h
  obtain rfl : c₀ = c₄ := by
    rcases isNameStart_of_way_specifierWords hwords hrest with h | h
    · exact h
    · simp [hname] at h
  obtain ⟨_, ⟨_, _, ⟨_, _, ⟨y, hy, hyrest, -⟩, -⟩, -⟩, -⟩ := hreturn
  exact hne y hy _ hyrest

/-! ### Lines in the form of a prototype -/

/-- What may stand between a return type and a name. -/
def isMarkChar (x : Char) : Bool :=
  isSpaceOrTab x || x = '*' || x = '&'

/-- Blanks, asterisks and ampersands, at least one of them. -/
structure Marks where
  first : Char
  others : List Char
  first_ok : isMarkChar first = true
  others_ok : ∀ x ∈ others, isMarkChar x = true

def Marks.text (m : Marks) : List Char :=
  m.first :: m.others

theorem Marks.isMarkChar_of_mem (m : Marks) {x : Char} (h : x ∈ m.text) : isMarkChar x = true := by
  rcases List.mem_cons.mp h with rfl | h
  · exact m.first_ok
  · exact m.others_ok x h

/-- A line in the form of a prototype, up to the closing parenthesis.  The parameters are any text
without the characters that end a declaration or begin a body. -/
structure RoutineLine where
  indent : Blanks
  returnType : PlainName
  marks : Marks
  name : PlainName
  params : List Char
  closed : ∀ x ∈ params, x ≠ ';' ∧ x ≠ '{' ∧ x ≠ '}'

def RoutineLine.text (s : RoutineLine) : List Char :=
  s.returnType.text ++ (s.marks.text ++ (s.name.text ++ '(' :: (s.params ++ [')'])))

theorem eq_of_isMarkChar {x : Char} (h : isMarkChar x = true) :
    x = ' ' ∨ x = '\t' ∨ x = '*' ∨ x = '&' := by
  simp only [isMarkChar, isSpaceOrTab, Bool.or_eq_true, decide_eq_true_eq] at h
  tauto

theorem isNameChar_of_isMarkChar {x : Char} (h : isMarkChar x = true) : isNameChar x = false := by
  rcases eq_of_isMarkChar h with rfl | rfl | rfl | rfl <;> decide

/-- No mark goes on a word of a return type. -/
theorem not_typeChar_of_isMarkChar {x : Char} (h : isMarkChar x = true) :
    (isWordChar x || ":<>,".toList.contains x) = false := by
  rcases eq_of_isMarkChar h with rfl | rfl | rfl | rfl <;> decide

/-! ### In front of such a line -/

section Run

variable {pre post : List Char} {y : Char} {g : Captures}
  {k : Cursor → Captures → Option MatchEnd} {o : MatchEnd}

/-- A word and what belongs to it are passed over in front of another character. -/
theorem run_optional_word {w : String} {q : Pattern} {x : Char} {s : List Char}
    (hw : w.toList = x :: s) (hne : y ≠ x) :
    (optional (lit w ++ q)).run (Cursor.between pre (y :: post)) g k =
      k (Cursor.between pre (y :: post)) g := by
  refine run_optional_of_none (run_eq_none_of_way fun d f => not_way_seq fun d f => ?_)
  rw [lit, hw]
  exact not_way_literal hne

/-- No qualifier stands in front of a semicolon or a brace. -/
theorem run_qualifierPattern (b : Blanks) (hy : y = ';' ∨ y = '{')
    (hk : k (Cursor.between (pre ++ b.text) (y :: post)) g = some o) :
    qualifierPattern.run (Cursor.between pre (b.text ++ y :: post)) g k = some o := by
  have hblank : isSpaceOrTab y = false := by
    rcases hy with rfl | rfl <;> decide
  have hne : y ≠ 'c' ∧ y ≠ 'n' ∧ y ≠ 'o' ∧ y ≠ 'f' ∧ y ≠ '=' := by
    rcases hy with rfl | rfl <;> decide
  rw [qualifierPattern, run_seq, run_seq, run_seq, run_seq, run_seq]
  apply run_many_of_some b.all_blank (Text.forall_head hblank)
  have hequals : (optional (lit "=" ++ gap ++ (lit "0" <|> lit "default" <|> lit "delete") ++ gap)).run
      (Cursor.between (pre ++ b.text) (y :: post)) g k =
        k (Cursor.between (pre ++ b.text) (y :: post)) g := by
    refine run_optional_of_none (run_eq_none_of_way fun d f => ?_)
    refine not_way_seq fun d f => not_way_seq fun d f => not_way_seq fun d f => ?_
    exact @not_way_literal g (pre ++ b.text) post [] '=' y hne.2.2.2.2 d f
  rw [@run_optional_word _ _ y _ _ "const" gap 'c' _ rfl hne.1,
    @run_optional_word _ _ y _ _ "noexcept" gap 'n' _ rfl hne.2.1,
    @run_optional_word _ _ y _ _ "override" gap 'o' _ rfl hne.2.2.1,
    @run_optional_word _ _ y _ _ "final" gap 'f' _ rfl hne.2.2.2.1, hequals]
  exact hk

/-- The parameters reach up to the last closing parenthesis in front of the semicolon or brace. -/
theorem run_params (s : RoutineLine) (b : Blanks) (hy : y = ';' ∨ y = '{')
    (hk : k (Cursor.between (pre ++ s.params ++ [')'] ++ b.text) (y :: post))
      ((4, Cursor.between pre (s.params ++ (')' :: b.text ++ y :: post)),
        Cursor.between (pre ++ s.params) (')' :: b.text ++ y :: post)) :: g) = some o) :
    (capture 4 (many (!";\x7b\x7d".toList.contains ·))).run
      (Cursor.between pre (s.params ++ (')' :: b.text ++ y :: post))) g
      (fun c g => (lit ")").run c g fun c g => qualifierPattern.run c g k) = some o := by
  have hclass : ∀ x ∈ s.params ++ ')' :: b.text, (!";\x7b\x7d".toList.contains x) = true := by
    intro x hx
    have hne : x ≠ ';' ∧ x ≠ '{' ∧ x ≠ '}' := by
      rcases List.mem_append.mp hx with hx | hx
      · exact s.closed x hx
      · rcases List.mem_cons.mp hx with rfl | hx
        · decide
        · have hblank := b.all_blank x hx
          refine ⟨?_, ?_, ?_⟩ <;>
          · rintro rfl
            exact absurd hblank (by decide)
    simp [hne]
  have hstop : (!";\x7b\x7d".toList.contains y) = false := by
    rcases hy with rfl | rfl <;> decide
  rw [run_capture]
  refine run_many_back hclass (Text.forall_head hstop) ?_ ?_
  · -- behind the parenthesis only blanks are left to give back
    intro u v huv hu
    cases u with
    | nil => exact absurd rfl hu
    | cons z u =>
      obtain ⟨-, hb⟩ := List.cons.inj huv
      have hne : y ≠ ')' := by
        rcases hy with rfl | rfl <;> decide
      refine run_eq_none_of_way fun d f => ?_
      cases v with
      | nil => exact @not_way_literal _ _ post [] ')' y hne d f
      | cons x v =>
        have hx : x ≠ ')' := by
          rintro rfl
          exact absurd (b.all_blank ')' (by simp [hb])) (by decide)
        exact @not_way_literal _ _ (v ++ y :: post) [] ')' x hx d f
  · refine (@run_literal_between _ _ (pre ++ s.params) [')'] _).trans ?_
    exact run_qualifierPattern b hy hk

/-- The characters of names and the marks between them. -/
def isNameOrMark (x : Char) : Bool :=
  isNameChar x || isMarkChar x

theorem over_gap_isNameOrMark : gap.Over (isNameOrMark · = true) := by
  intro x hx
  rw [isNameOrMark, isMarkChar, hx, Bool.true_or, Bool.true_or, Bool.or_true]

theorem over_word_isNameOrMark {w : String} (hw : w.toList.all isNameChar = true) :
    (lit w).Over (isNameOrMark · = true) := by
  intro x hx
  rw [isNameOrMark, List.all_eq_true.mp hw x hx, Bool.true_or]

theorem RoutineLine.isNameOrMark_of_mem (s : RoutineLine) {x : Char}
    (hx : x ∈ s.returnType.text ++ (s.marks.text ++ s.name.text)) : isNameOrMark x = true := by
  rcases List.mem_append.mp hx with hx | hx
  · rw [isNameOrMark, s.returnType.isNameChar_of_mem hx, Bool.true_or]
  · rcases List.mem_append.mp hx with hx | hx
    · rw [isNameOrMark, s.marks.isMarkChar_of_mem hx, Bool.or_true]
    · rw [isNameOrMark, s.name.isNameChar_of_mem hx, Bool.true_or]

/-- Behind the return type and the name comes a parenthesis, and not the colon of an access word. -/
theorem not_way_accessPattern_line (s : RoutineLine) {d : Cursor} {f : Captures} :
    ¬ accessPattern.Way (Cursor.between pre (s.returnType.text ++ (s.marks.text ++ (s.name.text ++
      '(' :: post)))) g d f := by
  have hsplit : s.returnType.text ++ (s.marks.text ++ (s.name.text ++ '(' :: post)) =
      s.returnType.text ++ (s.marks.text ++ s.name.text) ++ '(' :: post := by simp
  have hover : ((lit "public" <|> lit "private" <|> lit "protected") ++ gap).Over
      (isNameOrMark · = true) :=
    ⟨⟨over_word_isNameOrMark (by decide), over_word_isNameOrMark (by decide),
      over_word_isNameOrMark (by decide)⟩, over_gap_isNameOrMark⟩
  rw [hsplit]
  refine not_way_seq fun d f => ?_
  exact not_way_over_literal hover (fun x hx => s.isNameOrMark_of_mem hx) (by decide) (by decide)
    (by decide)

/-- Nor does the angle bracket of a template head come there. -/
theorem not_way_templatePattern_line (s : RoutineLine) {d : Cursor} {f : Captures} :
    ¬ templatePattern.Way (Cursor.between pre (s.returnType.text ++ (s.marks.text ++ (s.name.text ++
      '(' :: post)))) g d f := by
  have hsplit : s.returnType.text ++ (s.marks.text ++ (s.name.text ++ '(' :: post)) =
      s.returnType.text ++ (s.marks.text ++ s.name.text) ++ '(' :: post := by simp
  have hover : (lit "template" ++ gap).Over (isNameOrMark · = true) :=
    ⟨over_word_isNameOrMark (by decide), over_gap_isNameOrMark⟩
  rw [hsplit]
  refine not_way_seq fun d f => not_way_seq fun d f => not_way_seq fun d f => ?_
  exact not_way_over_literal hover (fun x hx => s.isNameOrMark_of_mem hx) (by decide) (by decide)
    (by decide)

/-- A specifier in front of a blank would be the whole word, and no name is a specifier. -/
theorem not_way_specifier (n : PlainName) {x : Char} (hmark : isNameChar x = false) {d : Cursor}
    {f : Captures} :
    ¬ ((lit "inline" <|> lit "constexpr" <|> lit "static" <|> lit "virtual" <|>
      lit "explicit" <|> lit "extern" <|> lit "friend") ++ oneOrMore isSpaceOrTab).Way
        (Cursor.between pre (n.text ++ x :: post)) g d f := by
  rintro ⟨e, _, hspecifier, ⟨e', _, ⟨y, hy, hrest, -⟩, -⟩⟩
  have hyn : isNameChar y = false := by
    simp only [isSpaceOrTab, Bool.or_eq_true, decide_eq_true_eq] at hy
    rcases hy with rfl | rfl <;> decide
  have hno : ∀ w ∈ barredWords, w.toList.all isNameChar = true →
      n.text ++ x :: post ≠ w.toList ++ e.rest := by
    intro w hw hname heq
    rw [hrest] at heq
    exact n.text_ne hw (Text.append_cons_inj_of_class (fun z hz => n.isNameChar_of_mem hz)
      (List.all_eq_true.mp hname) hmark hyn heq).1
  rcases hspecifier with h | h | h | h | h | h | h
  all_goals exact hno _ (by decide) (by decide) (rest_of_way_literal h)

/-- No access word, template head or specifier stands in front of the return type. -/
theorem run_specifierPattern (s : RoutineLine) :
    specifierPattern.run (Cursor.between pre (s.returnType.text ++ (s.marks.text ++ (s.name.text ++
        '(' :: post)))) g k =
      k (Cursor.between pre (s.returnType.text ++ (s.marks.text ++ (s.name.text ++ '(' :: post))))
        g := by
  have haccess : ∀ k, accessPattern.run (Cursor.between pre (s.returnType.text ++
      (s.marks.text ++ (s.name.text ++ '(' :: post)))) g k = none :=
    fun k => run_eq_none_of_way fun d f => not_way_accessPattern_line s
  have htemplate : ∀ k, templatePattern.run (Cursor.between pre (s.returnType.text ++
      (s.marks.text ++ (s.name.text ++ '(' :: post)))) g k = none :=
    fun k => run_eq_none_of_way fun d f => not_way_templatePattern_line s
  rw [specifierPattern_eq, run_seq, run_seq, run_optional_of_none (haccess _),
    run_optional_of_none (htemplate _), specifierWordsPattern]
  exact run_star_of_none fun k => run_eq_none_of_way fun d f =>
    not_way_specifier s.returnType (isNameChar_of_isMarkChar s.marks.first_ok)

theorem run_returnTypePattern (n : PlainName) {x : Char} (hx : isMarkChar x = true)
    (hk : k (Cursor.between (pre ++ n.text) (x :: post)) g = some o) :
    returnTypePattern.run (Cursor.between pre (n.text ++ x :: post)) g k = some o := by
  have hothers : ∀ x ∈ n.others, (isWordChar x || ":<>,".toList.contains x) = true := by
    intro x hx
    rw [isWordChar_of_isNameChar (n.others_ok x hx), Bool.true_or]
  rw [returnTypePattern, run_seq]
  refine run_one_many_of_some n.first_ok hothers
    (Text.forall_head (not_typeChar_of_isMarkChar hx)) ?_
  exact run_lazyStar_of_some hk

theorem PlainName.isMarkChar_first (n : PlainName) : isMarkChar n.first = false := by
  rcases hmark : isMarkChar n.first with _ | _
  · rfl
  · have hno := isNameChar_of_isMarkChar hmark
    rw [isNameChar_of_isNameStart n.first_ok] at hno
    exact absurd hno (by decide)

theorem PlainName.isSpaceOrTab_first (n : PlainName) : isSpaceOrTab n.first = false := by
  have hmark := n.isMarkChar_first
  simp only [isMarkChar, Bool.or_eq_false_iff] at hmark
  exact hmark.1.1

/-- What a line captures behind the text `pre`, in front of the text `post`. -/
def RoutineLine.captures (s : RoutineLine) (pre post : List Char) : Captures :=
  [(4, Cursor.between (pre ++ s.returnType.text ++ s.marks.text ++ s.name.text ++ ['('])
        (s.params ++ post),
      Cursor.between (pre ++ s.returnType.text ++ s.marks.text ++ s.name.text ++ ['('] ++ s.params)
        post),
    (3, Cursor.between (pre ++ s.returnType.text ++ s.marks.text)
        (s.name.text ++ '(' :: (s.params ++ post)),
      Cursor.between (pre ++ s.returnType.text ++ s.marks.text ++ s.name.text)
        ('(' :: (s.params ++ post))),
    (2, Cursor.between (pre ++ s.returnType.text)
        (s.marks.text ++ (s.name.text ++ '(' :: (s.params ++ post))),
      Cursor.between (pre ++ s.returnType.text ++ s.marks.text)
        (s.name.text ++ '(' :: (s.params ++ post))),
    (1, Cursor.between pre
        (s.returnType.text ++ (s.marks.text ++ (s.name.text ++ '(' :: (s.params ++ post)))),
      Cursor.between (pre ++ s.returnType.text)
        (s.marks.text ++ (s.name.text ++ '(' :: (s.params ++ post))))]

/-- The pattern takes the indentation, the line and the blanks behind it. -/
theorem run_routinePattern (s : RoutineLine) (b : Blanks) (hy : y = ';' ∨ y = '{')
    (hline : ∀ rest, (Cursor.between pre rest).isLineStart = true) :
    routinePattern.run (Cursor.between pre (s.indent.text ++ (s.returnType.text ++ (s.marks.text ++
        (s.name.text ++ '(' :: (s.params ++ (')' :: b.text ++ y :: post))))))) []
        (fun d g => some (d, g)) =
      some (Cursor.between (pre ++ s.indent.text ++ s.returnType.text ++ s.marks.text ++
          s.name.text ++ ['('] ++ s.params ++ [')'] ++ b.text) (y :: post),
        s.captures (pre ++ s.indent.text) (')' :: b.text ++ y :: post)) := by
  have hlit : lit "(" = literal ['('] := rfl
  -- from here on one part of the pattern after the other
  rw [routinePattern, routineFrontPattern]
  simp only [run_seq]
  rw [lineStart, run_place, if_pos (hline _)]
  refine run_many_of_some s.indent.all_blank (Text.forall_head s.returnType.isSpaceOrTab_first) ?_
  rw [run_specifierPattern, run_capture]
  refine run_returnTypePattern s.returnType s.marks.first_ok ?_
  rw [run_capture]
  refine @run_one_many_of_some _ _ _ isMarkChar isMarkChar _ s.marks.others _ s.marks.first
    s.marks.first_ok s.marks.others_ok (Text.forall_head s.name.isMarkChar_first) ?_
  rw [run_capture]
  refine run_namePattern s.name (Text.forall_head (by decide)) ?_
  -- no blank stands between the name and the parenthesis
  refine @run_many_of_some _ _ _ isSpaceOrTab _ [] _ (by simp) (Text.forall_head (by decide)) ?_
  rw [List.append_nil, hlit]
  refine (@run_literal_between _ _ _ ['('] _).trans ?_
  exact run_params s b hy rfl

end Run

namespace RoutineLine

variable (s : RoutineLine) (b : Blanks) (pre post : List Char)

/-- The match of a line behind the text `pre`, in front of blanks and the text `post`. -/
def lineMatch : Match where
  start := Cursor.between pre (s.indent.text ++ (s.text ++ (b.text ++ post)))
  stop := Cursor.between (pre ++ s.indent.text ++ s.text ++ b.text) post
  captures := s.captures (pre ++ s.indent.text) (')' :: b.text ++ post)

theorem capture?_returnType :
    (s.lineMatch b pre post).capture? 1 =
      some (Cursor.between (pre ++ s.indent.text) (s.returnType.text ++ (s.marks.text ++
          (s.name.text ++ '(' :: (s.params ++ (')' :: b.text ++ post))))),
        Cursor.between (pre ++ s.indent.text ++ s.returnType.text) (s.marks.text ++ (s.name.text ++
          '(' :: (s.params ++ (')' :: b.text ++ post))))) :=
  rfl

theorem captured?_marks : (s.lineMatch b pre post).captured? 2 = some s.marks.text :=
  congrArg some (Cursor.upTo_between _ _ _)

theorem captured?_name : (s.lineMatch b pre post).captured? 3 = some s.name.text :=
  congrArg some (Cursor.upTo_between _ _ _)

theorem captured?_params : (s.lineMatch b pre post).captured? 4 = some s.params :=
  congrArg some (Cursor.upTo_between _ _ _)

theorem start_lt_stop : (s.lineMatch b pre post).start < (s.lineMatch b pre post).stop := by
  have hne : s.indent.text ++ (s.text ++ b.text) ≠ [] := by
    simp [text, PlainName.text]
  have hlt := Cursor.between_lt_between pre post hne
  simpa [lineMatch] using hlt

/-- A line of plain names is not taken for a statement or an operator. -/
theorem isStatement_eq_false : isStatement s.returnType.text s.name.text = false := by
  have hwords : Text.words s.returnType.text = [s.returnType.text] :=
    Text.words_of_forall (List.cons_ne_nil _ _) fun x hx =>
      isBlank_of_isNameChar (s.returnType.isNameChar_of_mem hx)
  have hbarred : ∀ (n : PlainName) (words : List String), words ⊆ barredWords →
      words.contains (String.ofList n.text) = false := by
    intro n words hwords
    rw [← Bool.not_eq_true, List.contains_iff_mem]
    intro hmem
    exact n.text_ne (hwords hmem) (String.toList_ofList).symm
  -- a return type of one plain word is neither `operator` nor ends in `::operator`
  have hoperator : isConversionOperator s.returnType.text = false := by
    have hqualified : Text.dropStart? "::operator".toList.reverse s.returnType.text.reverse = none := by
      rcases hrest : Text.dropStart? "::operator".toList.reverse s.returnType.text.reverse with _ | rest
      · rfl
      · have hcolon : ':' ∈ s.returnType.text := by
          rw [← List.mem_reverse, Text.eq_append_of_dropStart? hrest]
          exact List.mem_append_left _ (by decide)
        exact absurd rfl (ne_of_isNameChar (s.returnType.isNameChar_of_mem hcolon) (by decide))
    have hword : s.returnType.text ≠ "operator".toList := s.returnType.text_ne (by decide)
    rw [isConversionOperator, hwords, List.any_cons, List.any_nil, hqualified, decide_eq_false hword]
    rfl
  rw [isStatement, hwords, List.headD_cons, hbarred _ _ (by decide), hbarred _ _ (by decide), hoperator]
  rfl

end RoutineLine

/-- **The pattern takes a line in the form of a prototype**, if a semicolon or a brace follows. -/
theorem matchAt?_routineLine (s : RoutineLine) (b : Blanks) {pre post : List Char} {y : Char}
    (hy : y = ';' ∨ y = '{') (hline : ∀ rest, (Cursor.between pre rest).isLineStart = true) :
    routinePattern.matchAt? (Cursor.between pre (s.indent.text ++ (s.text ++ (b.text ++ y :: post)))) =
      some (s.lineMatch b pre (y :: post)) := by
  have hahead : s.indent.text ++ (s.text ++ (b.text ++ y :: post)) =
      s.indent.text ++ (s.returnType.text ++ (s.marks.text ++ (s.name.text ++
        '(' :: (s.params ++ (')' :: b.text ++ y :: post))))) := by
    simp [RoutineLine.text]
  have hpassed : pre ++ s.indent.text ++ s.text ++ b.text =
      pre ++ s.indent.text ++ s.returnType.text ++ s.marks.text ++ s.name.text ++ ['('] ++
        s.params ++ [')'] ++ b.text := by
    simp [RoutineLine.text]
  rw [RoutineLine.lineMatch, hahead, hpassed]
  exact matchAt?_of_run (run_routinePattern s b hy hline)

end HeaderSurvey
