import HeaderSurvey.Proofs.Declaration.Forest
import Mathlib.Data.Bool.AllAny

/-!
# The characters of a forest

What the texts of the parts of a forest are made of.  The headline facts are `balanced_render`, that
the braces of a forest match each other, and `typeFree_signature`, that a prototype or definition
holds no word that introduces a type.
-/

namespace HeaderSurvey

/-! ### Characters of names -/

theorem isNameChar_of_isNameStart {x : Char} (h : isNameStart x = true) : isNameChar x = true := by
  rw [isNameChar, h, Bool.true_or]

/-- A character of a name is none that is of another kind. -/
theorem ne_of_isNameChar {x y : Char} (hx : isNameChar x = true) (hy : isNameChar y = false) :
    x ≠ y := by
  rintro rfl
  simp [hx] at hy

theorem toNat_of_isNameChar {x : Char} (h : isNameChar x = true) :
    48 ≤ x.val.toNat ∧ x.val.toNat ≤ 122 := by
  simp only [isNameChar, isNameStart, isAsciiLetter, isAsciiDigit, Bool.or_eq_true,
    Bool.and_eq_true, decide_eq_true_eq] at h
  have hle : ∀ a b : Char, a ≤ b → a.val.toNat ≤ b.val.toNat := fun a b hab => hab
  rcases h with ((⟨h1, h2⟩ | ⟨h1, h2⟩) | rfl) | ⟨h1, h2⟩
  · exact ⟨Nat.le_trans (by decide) (hle _ _ h1), Nat.le_trans (hle _ _ h2) (by decide)⟩
  · exact ⟨Nat.le_trans (by decide) (hle _ _ h1), Nat.le_trans (hle _ _ h2) (by decide)⟩
  · decide
  · exact ⟨hle _ _ h1, Nat.le_trans (hle _ _ h2) (by decide)⟩

theorem isWordChar_of_isNameChar {x : Char} (h : isNameChar x = true) : isWordChar x = true := by
  have hascii : x.val < 128 := by
    have := (toNat_of_isNameChar h).2
    rw [UInt32.lt_iff_toNat_lt]
    exact Nat.lt_of_le_of_lt this (by decide)
  rw [isWordChar, if_pos hascii]
  rw [isNameChar, isNameStart] at h
  simp only [Bool.or_eq_true] at h ⊢
  tauto

theorem isBlank_of_isNameChar {x : Char} (h : isNameChar x = true) : isBlank x = false := by
  obtain ⟨h1, h2⟩ := toNat_of_isNameChar h
  have hle : ∀ a b : Char, a ≤ b → a.val.toNat ≤ b.val.toNat := fun a b hab => hab
  by_contra hblank
  rw [Bool.not_eq_false, isBlank] at hblank
  simp only [Bool.or_eq_true, Bool.and_eq_true, decide_eq_true_eq] at hblank
  rcases hblank with (((((((((rfl | ⟨-, h⟩) | rfl) | rfl) | rfl) | ⟨h, -⟩) | rfl) | rfl) | rfl) |
    rfl) | rfl
  · exact absurd h1 (by decide)
  · have := Nat.le_trans h1 (hle _ _ h)
    exact absurd this (by decide)
  all_goals first
    | exact absurd h2 (by decide)
    | exact absurd (Nat.le_trans (hle _ _ h) h2) (by decide)

/-- All blanks. -/
def blankChars : List Char :=
  (List.range 5).map (fun d => Char.ofNat ('\t'.toNat + d)) ++
    (List.range 11).map (fun d => Char.ofNat ('\u2000'.toNat + d)) ++
    [' ', '\x85', '\u00a0', '\u1680', '\u2028', '\u2029', '\u202f', '\u205f', '\u3000']

theorem mem_blankChars {x : Char} (h : isBlank x = true) : x ∈ blankChars := by
  -- the blanks in the two ranges, by their distance from the first of the range
  have hrange : ∀ (a b : Char) (n : Nat), b.toNat - a.toNat < n → a ≤ x → x ≤ b →
      x ∈ (List.range n).map fun d => Char.ofNat (a.toNat + d) := by
    intro a b n hn ha hb
    have h1 : a.toNat ≤ x.toNat := ha
    have h2 : x.toNat ≤ b.toNat := hb
    refine List.mem_map.mpr ⟨x.toNat - a.toNat, List.mem_range.mpr (by omega), ?_⟩
    rw [Nat.add_sub_cancel' h1, Char.ofNat_toNat]
  rw [blankChars, List.mem_append, List.mem_append]
  simp only [isBlank, Bool.or_eq_true, Bool.and_eq_true, decide_eq_true_eq] at h
  rcases h with (((((((((rfl | ⟨h1, h2⟩) | rfl) | rfl) | rfl) | ⟨h1, h2⟩) | rfl) | rfl) | rfl) |
    rfl) | rfl
  · simp
  · exact Or.inl (Or.inl (hrange '\t' '\r' 5 (by decide) h1 h2))
  · simp
  · simp
  · simp
  · exact Or.inl (Or.inr (hrange '\u2000' '\u200a' 11 (by decide) h1 h2))
  all_goals simp

/-- A blank belongs to no word. -/
theorem isWordChar_of_isBlank {x : Char} (h : isBlank x = true) : isWordChar x = false := by
  have hall : blankChars.all (!isWordChar ·) = true := by decide +kernel
  simpa using List.all_eq_true.mp hall x (mem_blankChars h)

/-- A blank is neither a letter nor a number. -/
theorem isAlphanumeric_of_isBlank {x : Char} (h : isBlank x = true) : isAlphanumeric x = false := by
  have hall : blankChars.all (!isAlphanumeric ·) = true := by decide +kernel
  simpa using List.all_eq_true.mp hall x (mem_blankChars h)

theorem isBlank_of_isSpaceOrTab {x : Char} (h : isSpaceOrTab x = true) : isBlank x = true := by
  simp only [isSpaceOrTab, Bool.or_eq_true, decide_eq_true_eq] at h
  rcases h with rfl | rfl <;> decide

theorem isWordChar_of_isSpaceOrTab {x : Char} (h : isSpaceOrTab x = true) :
    isWordChar x = false :=
  isWordChar_of_isBlank (isBlank_of_isSpaceOrTab h)

namespace PlainName

theorem isNameChar_of_mem (n : PlainName) {x : Char} (h : x ∈ n.text) : isNameChar x = true := by
  rcases List.mem_cons.mp h with rfl | h
  · exact isNameChar_of_isNameStart n.first_ok
  · exact n.others_ok x h

theorem text_ne (n : PlainName) {s : String} (h : s ∈ barredWords) : n.text ≠ s.toList := by
  intro heq
  refine n.not_barred ?_
  have hs : String.ofList (n.first :: n.others) = s := by
    change String.ofList n.text = s
    rw [heq, String.ofList_toList]
  rw [hs]
  exact h

end PlainName

/-! ### Characters of the parts -/

theorem isNameChar_of_mem_keyword {kw : TypeKeyword} {x : Char} (h : x ∈ kw.text.toList) :
    isNameChar x = true := by
  cases kw with
  | classWord =>
    have hall : ∀ y ∈ "class".toList, isNameChar y = true :=
      List.all_iff_forall_prop.mp (by decide)
    exact hall x h
  | structWord =>
    have hall : ∀ y ∈ "struct".toList, isNameChar y = true :=
      List.all_iff_forall_prop.mp (by decide)
    exact hall x h

theorem isNameChar_of_mem_access {w : List Char} (hw : w ∈ accessWords) {x : Char} (h : x ∈ w) :
    isNameChar x = true := by
  have hall : ∀ w ∈ accessWords, ∀ y ∈ w, isNameChar y = true := by
    have hwords : accessWords.all (·.all isNameChar) = true := by decide
    intro w hw
    exact List.all_eq_true.mp (List.all_eq_true.mp hwords w hw)
  exact hall w hw x h

theorem Base.mem_path (b : Base) {x : Char} (h : x ∈ b.path) : isNameChar x = true ∨ x = ':' := by
  rw [path, List.mem_append, List.mem_append] at h
  rcases h with (h | h) | h
  · split_ifs at h
    · right
      simpa using h
    · simp at h
  · obtain ⟨n, -, hx⟩ := List.mem_flatMap.mp h
    rcases List.mem_append.mp hx with hx | hx
    · exact Or.inl (n.isNameChar_of_mem hx)
    · right
      simpa using hx
  · exact Or.inl (b.name.isNameChar_of_mem h)

theorem Base.mem_text (b : Base) {x : Char} (h : x ∈ b.text) :
    isNameChar x = true ∨ x = ':' ∨ x = ' ' := by
  rw [text] at h
  split at h
  · next w _ =>
    rcases List.mem_append.mp h with h | h
    · exact Or.inl (isNameChar_of_mem_access w.property h)
    · rcases List.mem_cons.mp h with rfl | h
      · exact Or.inr (Or.inr rfl)
      · exact (b.mem_path h).imp_right Or.inl
  · exact (b.mem_path h).imp_right Or.inl

theorem mem_baseListText {bases : List Base} {x : Char} (h : x ∈ baseListText bases) :
    isNameChar x = true ∨ x = ':' ∨ x = ' ' ∨ x = ',' := by
  rw [baseListText, List.mem_append] at h
  rcases h with h | h
  · rcases Text.mem_join h with h | ⟨s, hs, hx⟩
    · simp only [List.mem_cons, List.not_mem_nil, or_false] at h
      tauto
    · obtain ⟨b, -, rfl⟩ := List.mem_map.mp hs
      rcases b.mem_text hx with h | h | h <;> tauto
  · simp only [List.mem_singleton] at h
    tauto

/-- What stands in front of the brace of a type: names, blanks, colons and commas. -/
theorem TypeHead.mem_text (t : TypeHead) {x : Char} (h : x ∈ t.text) :
    isNameChar x = true ∨ x = ':' ∨ x = ' ' ∨ x = ',' := by
  rw [text, List.mem_append, List.mem_cons, List.mem_append] at h
  rcases h with h | rfl | h | h
  · exact Or.inl (isNameChar_of_mem_keyword h)
  · exact Or.inr (Or.inr (Or.inl rfl))
  · exact Or.inl (t.name.isNameChar_of_mem h)
  · split_ifs at h
    · rw [List.mem_singleton] at h
      exact Or.inr (Or.inr (Or.inl h))
    · simp only [List.mem_cons] at h
      rcases h with h | h | h | h
      · exact Or.inr (Or.inr (Or.inl h))
      · exact Or.inr (Or.inl h)
      · exact Or.inr (Or.inr (Or.inl h))
      · exact mem_baseListText h

/-! ### Texts without types -/

theorem typeFree_append_cons {s t : List Char} {x : Char} (hx : isWordChar x = false)
    (hs : TypeFree s) (ht : TypeFree t) : TypeFree (s ++ x :: t) := by
  intro kw h
  rw [Text.runs_append_cons hx, List.mem_append] at h
  exact h.elim (hs kw) (ht kw)

theorem typeFree_nil : TypeFree [] := by
  intro kw
  cases kw <;> decide

theorem typeFree_append_of_forall {s t : List Char} (hs : ∀ x ∈ s, isWordChar x = false)
    (ht : TypeFree t) : TypeFree (s ++ t) := by
  induction s with
  | nil => exact ht
  | cons x s ih =>
    obtain ⟨hx, hs⟩ := List.forall_mem_cons.mp hs
    exact typeFree_append_cons hx typeFree_nil (ih hs)

theorem PlainName.typeFree (n : PlainName) : TypeFree n.text := by
  intro kw h
  rw [Text.runs_of_forall fun x hx => isWordChar_of_isNameChar (n.isNameChar_of_mem hx),
    List.mem_singleton] at h
  refine n.text_ne ?_ h.symm
  cases kw <;> decide

/-- A signature introduces no type, also with its indentation and in front of other texts without
types. -/
theorem typeFree_signature (s : Signature) {t : List Char} (ht : TypeFree (')' :: t)) :
    TypeFree (s.indent.text ++ (s.returnType.text ++ ' ' :: (s.name.text ++
      '(' :: (s.params.text ++ ')' :: t)))) := by
  have htail : TypeFree t := by
    intro kw h
    refine ht kw ?_
    rw [← List.nil_append (')' :: t), Text.runs_append_cons (by decide)]
    exact List.mem_append_right _ h
  refine typeFree_append_of_forall
    (fun x hx => isWordChar_of_isSpaceOrTab (s.indent.all_blank x hx)) ?_
  refine typeFree_append_cons (by decide) s.returnType.typeFree ?_
  refine typeFree_append_cons (by decide) s.name.typeFree ?_
  exact typeFree_append_cons (by decide) s.params.typeFree htail

/-! ### Balanced texts -/

theorem Blanks.balanced (b : Blanks) : Balanced b.text := by
  refine balanced_of_forall fun x hx => ?_
  have h := b.all_blank x hx
  constructor <;>
  · rintro rfl
    exact absurd h (by decide)

theorem PlainName.balanced (n : PlainName) : Balanced n.text := by
  refine balanced_of_forall fun x hx => ?_
  have h := n.isNameChar_of_mem hx
  exact ⟨ne_of_isNameChar h (by decide), ne_of_isNameChar h (by decide)⟩

theorem TypeHead.balanced (t : TypeHead) : Balanced t.text := by
  refine balanced_of_forall fun x hx => ?_
  rcases t.mem_text hx with h | rfl | rfl | rfl
  · exact ⟨ne_of_isNameChar h (by decide), ne_of_isNameChar h (by decide)⟩
  all_goals decide

theorem Signature.balanced (s : Signature) : Balanced s.text := by
  have hparams : Balanced s.params.text := balanced_of_forall fun x hx => (s.params.closed x hx).2
  refine balanced_append s.returnType.balanced (balanced_cons (by decide) (by decide) ?_)
  refine balanced_append s.name.balanced (balanced_cons (by decide) (by decide) ?_)
  exact balanced_append hparams (balanced_of_forall (List.all_iff_forall_prop.mp (by decide)))

theorem TypeHead.balanced_body (t : TypeHead) {members : List Char} (h : Balanced members) :
    Balanced (t.body members) :=
  balanced_cons (by decide) (by decide) (balanced_append h t.closeIndent.balanced)

/-- The braces of a forest match each other. -/
theorem Forest.balanced_render (f : Forest) : Balanced f.render := by
  induction f with
  | empty => exact balanced_nil
  | type t members next hmembers hnext =>
    refine balanced_append (balanced_append t.indent.balanced (balanced_append t.balanced ?_)) hnext
    exact balanced_block (t.balanced_body hmembers) (balanced_of_forall (List.all_iff_forall_prop.mp (by decide)))
  | prototype s next hnext =>
    refine balanced_append (balanced_append s.indent.balanced (balanced_append s.balanced ?_)) hnext
    exact balanced_of_forall (List.all_iff_forall_prop.mp (by decide))
  | definition s blanks body next hnext =>
    refine balanced_append (balanced_append s.indent.balanced (balanced_append s.balanced ?_)) hnext
    refine balanced_append blanks.balanced ?_
    exact balanced_block body.balanced (balanced_of_forall (List.all_iff_forall_prop.mp (by decide)))

/-! ### Ends of lines -/

/-- What follows the text stands at the start of a line. -/
def AtLineStart (pre : List Char) : Prop :=
  ∀ rest, (Cursor.between pre rest).isLineStart = true

theorem atLineStart_nil : AtLineStart [] :=
  fun _ => rfl

theorem atLineStart_append_newline (s : List Char) : AtLineStart (s ++ ['\n']) := by
  intro rest
  rw [Cursor.isLineStart, Cursor.before_between, List.reverse_append]
  rfl

/-- No word goes on at the start of a line. -/
theorem AtLineStart.headIsWord {pre : List Char} (h : AtLineStart pre) :
    Cursor.headIsWord pre.reverse = false := by
  have hline := h []
  rw [Cursor.isLineStart, Cursor.before_between] at hline
  cases hrev : pre.reverse with
  | nil => rfl
  | cons x s =>
    rw [hrev] at hline
    obtain rfl : x = '\n' := of_decide_eq_true hline
    exact (by decide : isWordChar '\n' = false)

/-- The text is empty, or ends with a line whose last character ends a declaration or begins a
body. -/
def EndsLine (pre : List Char) : Prop :=
  pre = [] ∨ ∃ s x, pre = s ++ [x, '\n'] ∧ (x = ';' ∨ x = '{' ∨ x = '}')

theorem EndsLine.atLineStart {pre : List Char} (h : EndsLine pre) : AtLineStart pre := by
  intro rest
  rcases h with rfl | ⟨s, x, rfl, -⟩
  · rfl
  · rw [Cursor.isLineStart, Cursor.before_between, List.reverse_append]
    rfl

theorem TypeHead.endsLine_opening (t : TypeHead) (pre : List Char) :
    EndsLine (pre ++ t.opening) :=
  Or.inr ⟨pre ++ t.indent.text ++ t.text, '{', by simp [opening], by simp⟩

theorem TypeHead.endsLine_item (t : TypeHead) (pre members : List Char) :
    EndsLine (pre ++ t.item members) :=
  Or.inr ⟨pre ++ t.indent.text ++ t.text ++ '{' :: t.body members ++ ['}'], ';', by simp [item],
    by simp⟩

theorem Signature.endsLine_prototype (s : Signature) (pre : List Char) :
    EndsLine (pre ++ s.prototype) :=
  Or.inr ⟨pre ++ s.indent.text ++ s.text, ';', by simp [prototype], by simp⟩

theorem Signature.endsLine_definition (s : Signature) (blanks : Blanks) (body : Code)
    (pre : List Char) : EndsLine (pre ++ s.definition blanks body) :=
  Or.inr ⟨pre ++ s.indent.text ++ s.text ++ blanks.text ++ '{' :: body.text, '}',
    by simp [definition], by simp⟩

end HeaderSurvey
