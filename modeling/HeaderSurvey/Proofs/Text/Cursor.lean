import HeaderSurvey.Text.Cursor
import Mathlib.Order.Basic

/-!
# The order of the places in a text

`c ≤ d` says that `c` and `d` are places of one text and that `d` is not before `c`.  This is a
partial order, and on the places of one text it is the order of the byte offsets
(`Cursor.le_iff`).  `upTo` gives exactly the characters between two ordered places
(`Cursor.rest_eq_upTo`), and adjoining stretches add up (`Cursor.upTo_append`).

`between pre post` is the place behind `pre` in the text `pre ++ post`; every cursor has this form
(`Cursor.between_self`).
-/

namespace HeaderSurvey

namespace Text

/-- What holds of all characters of a text is decided along the text, not along all characters that
there are. -/
instance decidableForallMem {p : Char → Prop} [DecidablePred p] (s : List Char) :
    Decidable (∀ x ∈ s, p x) :=
  List.decidableBAll p s

@[simp] theorem byteLength_append (s t : List Char) :
    byteLength (s ++ t) = byteLength s + byteLength t := by
  induction s with
  | nil => simp [byteLength]
  | cons c s ih => rw [List.cons_append, byteLength, byteLength, ih, Nat.add_assoc]

@[simp] theorem byteLength_reverse (s : List Char) : byteLength s.reverse = byteLength s := by
  induction s with
  | nil => rfl
  | cons c s ih =>
    rw [List.reverse_cons, byteLength_append, ih, byteLength, byteLength, byteLength]
    omega

theorem length_le_byteLength (s : List Char) : s.length ≤ byteLength s := by
  induction s with
  | nil => exact Nat.le_refl 0
  | cons c s ih =>
    have hc : 0 < c.utf8Size := Char.utf8Size_pos c
    rw [List.length_cons, byteLength]
    omega

/-- What holds of the character at the head of a text holds of every head that the text has. -/
theorem forall_head {p : Char → Bool} {y : Char} {s : List Char} (h : p y = false) :
    ∀ x rest, y :: s = x :: rest → p x = false := by
  intro x rest heq
  obtain ⟨rfl, -⟩ := List.cons.inj heq
  exact h

/-- A character of a class is none of the marks, if no mark is of the class. -/
theorem notMem_of_class {p : Char → Bool} {marks : List Char}
    (hmarks : ∀ y ∈ marks, p y = false) {x : Char} (hx : p x = true) : x ∉ marks := by
  intro hmem
  rw [hmarks x hmem] at hx
  exact absurd hx (by simp)

theorem byteLength_eq_zero {s : List Char} : byteLength s = 0 ↔ s = [] := by
  constructor
  · intro h
    have hs := length_le_byteLength s
    exact List.length_eq_zero_iff.mp (by omega)
  · rintro rfl
    rfl

end Text

namespace Cursor

/-! ### Places given by the text on both sides -/

/-- The place behind `pre` in the text `pre ++ post`. -/
def between (pre post : List Char) : Cursor :=
  ⟨pre.reverse, post⟩

@[simp] theorem before_between (pre post : List Char) : (between pre post).before = pre.reverse :=
  rfl

@[simp] theorem rest_between (pre post : List Char) : (between pre post).rest = post :=
  rfl

@[simp] theorem text_between (pre post : List Char) : (between pre post).text = pre ++ post := by
  rw [text, before_between, rest_between, List.reverse_reverse]

@[simp] theorem offset_between (pre post : List Char) :
    (between pre post).offset = Text.byteLength pre := by
  rw [offset, before_between, Text.byteLength_reverse]

@[simp] theorem line_between (pre post : List Char) :
    (between pre post).line = pre.count '\n' + 1 := by
  rw [line, before_between, List.count_reverse]

theorem between_self (c : Cursor) : between c.before.reverse c.rest = c := by
  rw [between, List.reverse_reverse]

/-! ### The order -/

/-- One place is not behind another: the text ahead of it goes on with the characters between the
two, and these are the nearest ones in front of the other. -/
instance : LE Cursor :=
  ⟨fun c d => ∃ passed, c.rest = passed ++ d.rest ∧ d.before = passed.reverse ++ c.before⟩

instance : PartialOrder Cursor where
  le_refl c := ⟨[], rfl, rfl⟩
  le_trans := by
    rintro c d e ⟨s, hcd, hdc⟩ ⟨t, hde, hed⟩
    refine ⟨s ++ t, ?_, ?_⟩
    · rw [hcd, hde, List.append_assoc]
    · rw [hed, hdc, List.reverse_append, List.append_assoc]
  le_antisymm := by
    rintro ⟨cb, cr⟩ ⟨db, dr⟩ ⟨s, hr, hb⟩ ⟨t, hr', -⟩
    dsimp only at hr hb hr'
    have hlen := congrArg List.length hr
    have hlen' := congrArg List.length hr'
    rw [List.length_append] at hlen hlen'
    obtain rfl : s = [] := List.length_eq_zero_iff.mp (by omega)
    rw [hb, hr]
    rfl

theorem between_le_between (pre s post : List Char) :
    between pre (s ++ post) ≤ between (pre ++ s) post :=
  ⟨s, rfl, by simp⟩

/-- A place is at or before another exactly if what is between them can be named. -/
theorem exists_between_of_le {c d : Cursor} (h : c ≤ d) :
    ∃ pre s post, c = between pre (s ++ post) ∧ d = between (pre ++ s) post := by
  obtain ⟨s, hr, hb⟩ := h
  refine ⟨c.before.reverse, s, d.rest, ?_, ?_⟩
  · rw [← hr, between_self]
  · rw [between, List.reverse_append, List.reverse_reverse, ← hb]

/-- The places in a stretch, without its end, cut it in two. -/
theorem exists_append_of_le_of_lt {pre s post : List Char} {e : Cursor}
    (hle : between pre (s ++ post) ≤ e) (hlt : e < between (pre ++ s) post) :
    ∃ u v, s = u ++ v ∧ v ≠ [] ∧ e = between (pre ++ u) (v ++ post) := by
  obtain ⟨u, hr, hb⟩ := hle
  obtain ⟨v, hr', -⟩ := hlt.le
  obtain ⟨before, rest⟩ := e
  simp only [rest_between, before_between] at hr hb hr'
  rw [hr', ← List.append_assoc] at hr
  obtain rfl := List.append_cancel_right hr
  refine ⟨u, v, rfl, ?_, ?_⟩
  · rintro rfl
    refine hlt.ne ?_
    rw [hr', hb, between]
    simp
  · rw [hr', hb, between]
    simp

theorem text_eq_of_le {c d : Cursor} (h : c ≤ d) : c.text = d.text := by
  obtain ⟨pre, s, post, rfl, rfl⟩ := exists_between_of_le h
  simp

theorem length_rest_le_of_le {c d : Cursor} (h : c ≤ d) : d.rest.length ≤ c.rest.length := by
  obtain ⟨s, hr, -⟩ := h
  rw [hr, List.length_append]
  omega

theorem eq_of_le_of_length_rest {c d : Cursor} (h : c ≤ d)
    (hlen : c.rest.length ≤ d.rest.length) : c = d := by
  obtain ⟨pre, s, post, rfl, rfl⟩ := exists_between_of_le h
  simp only [rest_between, List.length_append] at hlen
  obtain rfl : s = [] := List.length_eq_zero_iff.mp (by omega)
  rw [List.nil_append, List.append_nil]

theorem between_lt_between {s : List Char} (pre post : List Char) (hs : s ≠ []) :
    between pre (s ++ post) < between (pre ++ s) post := by
  refine lt_of_le_of_ne (between_le_between pre s post) ?_
  intro heq
  have hrest := congrArg rest heq
  rw [rest_between, rest_between] at hrest
  exact hs (List.append_left_eq_self.mp hrest)

/-- Of two places in one text one is at or before the other. -/
theorem le_or_le_of_text_eq {c d : Cursor} (h : c.text = d.text) : c ≤ d ∨ d ≤ c := by
  rw [text, text] at h
  rcases List.append_eq_append_iff.mp h with ⟨s, hb, hr⟩ | ⟨s, hb, hr⟩
  · refine Or.inl ⟨s, hr, ?_⟩
    rw [← List.reverse_reverse d.before, hb, List.reverse_append, List.reverse_reverse]
  · refine Or.inr ⟨s, hr, ?_⟩
    rw [← List.reverse_reverse c.before, hb, List.reverse_append, List.reverse_reverse]

theorem lt_or_le_of_text_eq {c d : Cursor} (h : c.text = d.text) : c < d ∨ d ≤ c := by
  rcases le_or_le_of_text_eq h with hle | hle
  · exact (eq_or_lt_of_le hle).symm.imp_right Eq.ge
  · exact Or.inr hle

/-! ### What is between two places -/

@[simp] theorem upTo_between (pre s post : List Char) :
    (between pre (s ++ post)).upTo (between (pre ++ s) post) = s := by
  have hlen : (pre ++ s).reverse.length - pre.reverse.length = s.reverse.length := by simp
  rw [upTo, before_between, before_between, hlen, List.reverse_append, List.take_left,
    List.reverse_reverse]

theorem upTo_self (c : Cursor) : c.upTo c = [] := by
  rw [upTo, Nat.sub_self, List.take_zero, List.reverse_nil]

theorem rest_eq_upTo {c d : Cursor} (h : c ≤ d) : c.rest = c.upTo d ++ d.rest := by
  obtain ⟨pre, s, post, rfl, rfl⟩ := exists_between_of_le h
  simp

theorem before_eq_upTo {c d : Cursor} (h : c ≤ d) : d.before = (c.upTo d).reverse ++ c.before := by
  obtain ⟨pre, s, post, rfl, rfl⟩ := exists_between_of_le h
  simp

theorem upTo_append {c d e : Cursor} (hcd : c ≤ d) (hde : d ≤ e) :
    c.upTo d ++ d.upTo e = c.upTo e := by
  have hrest := rest_eq_upTo (hcd.trans hde)
  rw [rest_eq_upTo hcd, rest_eq_upTo hde, ← List.append_assoc] at hrest
  exact List.append_cancel_right hrest

theorem upTo_subset_left {c d e : Cursor} (hcd : c ≤ d) (hde : d ≤ e) : c.upTo d ⊆ c.upTo e := by
  rw [← upTo_append hcd hde]
  exact List.subset_append_left _ _

theorem upTo_subset_right {c d e : Cursor} (hcd : c ≤ d) (hde : d ≤ e) : d.upTo e ⊆ c.upTo e := by
  rw [← upTo_append hcd hde]
  exact List.subset_append_right _ _

theorem le_next (before : List Char) (x : Char) (rest : List Char) :
    (⟨before, x :: rest⟩ : Cursor) ≤ ⟨x :: before, rest⟩ :=
  ⟨[x], rfl, rfl⟩

/-- In front of the next place there is only the place itself and what is in front of it. -/
theorem le_of_lt_next {c : Cursor} {before rest : List Char} {x : Char}
    (h : c < ⟨x :: before, rest⟩) : c ≤ ⟨before, x :: rest⟩ := by
  obtain ⟨s, hr, hb⟩ := h.le
  rcases List.eq_nil_or_concat s with rfl | ⟨s, y, rfl⟩
  · exact absurd (eq_of_le_of_length_rest h.le (Nat.le_of_eq (congrArg List.length hr))) h.ne
  · rw [List.concat_eq_append, List.reverse_append] at hb
    obtain ⟨rfl, hbefore⟩ := List.cons.inj hb
    rw [List.concat_eq_append, List.append_assoc] at hr
    exact ⟨s, hr, hbefore⟩

/-- Between a place and a later one stand the next character and what is behind it. -/
theorem upTo_cons {before rest : List Char} {x : Char} {d : Cursor}
    (h : (⟨x :: before, rest⟩ : Cursor) ≤ d) :
    (⟨before, x :: rest⟩ : Cursor).upTo d = x :: (⟨x :: before, rest⟩ : Cursor).upTo d := by
  rw [← upTo_append (le_next before x rest) h]
  simp [upTo]

theorem offset_eq_of_le {c d : Cursor} (h : c ≤ d) :
    d.offset = c.offset + Text.byteLength (c.upTo d) := by
  rw [offset, before_eq_upTo h, Text.byteLength_append, Text.byteLength_reverse, offset]
  omega

theorem offset_le_of_le {c d : Cursor} (h : c ≤ d) : c.offset ≤ d.offset := by
  rw [offset_eq_of_le h]
  omega

/-- On the places of one text the order is that of the byte offsets. -/
theorem le_iff {c d : Cursor} : c ≤ d ↔ c.text = d.text ∧ c.offset ≤ d.offset := by
  constructor
  · intro h
    exact ⟨text_eq_of_le h, offset_le_of_le h⟩
  · rintro ⟨htext, hoff⟩
    rcases le_or_le_of_text_eq htext with h | h
    · exact h
    · have hpassed : Text.byteLength (d.upTo c) = 0 := by
        have := offset_eq_of_le h
        omega
      have hnil := Text.byteLength_eq_zero.mp hpassed
      have hrest := rest_eq_upTo h
      rw [hnil, List.nil_append] at hrest
      exact (eq_of_le_of_length_rest h (Nat.le_of_eq (by rw [hrest]))).ge

theorem lt_iff_of_le {c d : Cursor} (h : c ≤ d) : c < d ↔ d.rest.length < c.rest.length := by
  constructor
  · intro hlt
    by_contra hlen
    exact hlt.ne (eq_of_le_of_length_rest h (Nat.not_lt.mp hlen))
  · intro hlen
    refine lt_of_le_of_ne h ?_
    rintro rfl
    exact Nat.lt_irrefl _ hlen

theorem offset_lt_of_lt {c d : Cursor} (h : c < d) : c.offset < d.offset := by
  refine Nat.lt_of_le_of_ne (offset_le_of_le h.le) ?_
  intro heq
  exact h.not_ge (le_iff.mpr ⟨(text_eq_of_le h.le).symm, Nat.le_of_eq heq.symm⟩)

theorem offset_le_byteLength_text (c : Cursor) : c.offset ≤ Text.byteLength c.text := by
  rw [text, Text.byteLength_append, Text.byteLength_reverse, offset]
  omega

theorem upTo_ne_nil_of_lt {c d : Cursor} (h : c < d) : c.upTo d ≠ [] := by
  intro hnil
  have hrest := rest_eq_upTo h.le
  rw [hnil, List.nil_append] at hrest
  exact h.ne (eq_of_le_of_length_rest h.le (Nat.le_of_eq (congrArg List.length hrest)))

/-- What stands at a place in front of another stands between the two. -/
theorem mem_upTo_of_rest {c d e : Cursor} {x : Char} {rest : List Char} (hcd : c ≤ d) (hde : d < e)
    (hrest : d.rest = x :: rest) : x ∈ c.upTo e := by
  obtain ⟨y, s, hs⟩ := List.exists_cons_of_ne_nil (upTo_ne_nil_of_lt hde)
  have hup := rest_eq_upTo hde.le
  rw [hrest, hs, List.cons_append] at hup
  refine upTo_subset_right hcd hde.le ?_
  rw [hs, (List.cons.inj hup).1]
  exact List.mem_cons_self ..

theorem length_before_le_of_le {c d : Cursor} (h : c ≤ d) : c.before.length ≤ d.before.length := by
  rw [before_eq_upTo h, List.length_append]
  omega

theorem length_before_lt_of_lt {c d : Cursor} (h : c < d) : c.before.length < d.before.length := by
  have hne := List.length_pos_iff.mpr (upTo_ne_nil_of_lt h)
  rw [before_eq_upTo h.le, List.length_append, List.length_reverse]
  omega

theorem line_eq_of_le {c d : Cursor} (h : c ≤ d) : d.line = c.line + (c.upTo d).count '\n' := by
  rw [line, before_eq_upTo h, List.count_append, List.count_reverse, line]
  omega

theorem line_le_of_le {c d : Cursor} (h : c ≤ d) : c.line ≤ d.line := by
  rw [line_eq_of_le h]
  omega

/-- In front of the start of a line stands a newline. -/
theorem newline_mem_upTo {c d : Cursor} (h : c < d) (hd : d.isLineStart = true) :
    '\n' ∈ c.upTo d := by
  obtain ⟨x, s, hrev⟩ := List.exists_cons_of_ne_nil
    (List.reverse_ne_nil_iff.mpr (upTo_ne_nil_of_lt h))
  rw [isLineStart, before_eq_upTo h.le, hrev, List.cons_append, decide_eq_true_eq] at hd
  rw [← List.mem_reverse, hrev, hd]
  exact List.mem_cons_self ..

/-- The start of a line is on a later line than every place in front of it. -/
theorem line_lt_of_isLineStart {c d : Cursor} (h : c < d) (hd : d.isLineStart = true) :
    c.line < d.line := by
  have hcount := List.count_pos_iff.mpr (newline_mem_upTo h hd)
  rw [line_eq_of_le h.le]
  omega

/-! ### Passing over characters -/

theorem skipText?_between (pre s post : List Char) :
    skipText? s (between pre (s ++ post)) = some (between (pre ++ s) post) := by
  induction s generalizing pre with
  | nil => simp [skipText?]
  | cons x s ih =>
    have hstep := ih (pre ++ [x])
    simp only [between, List.reverse_append, List.reverse_cons, List.reverse_nil, List.nil_append,
      List.singleton_append, List.append_assoc] at hstep
    rw [between, List.cons_append, skipText?, if_pos rfl, hstep]
    simp [between]

theorem skipText?_eq_some {s : List Char} {c d : Cursor} (h : skipText? s c = some d) :
    c ≤ d ∧ c.upTo d = s := by
  induction s generalizing c with
  | nil =>
    obtain rfl : c = d := by simpa [skipText?] using h
    exact ⟨le_refl c, upTo_self c⟩
  | cons x s ih =>
    obtain ⟨before, rest⟩ := c
    cases rest with
    | nil => simp [skipText?] at h
    | cons y rest =>
      rw [skipText?] at h
      split_ifs at h with hxy
      obtain ⟨hle, hup⟩ := ih h
      refine ⟨(le_next before y rest).trans hle, ?_⟩
      rw [upTo_cons hle, hup, hxy]

theorem le_skipWhile (p : Char → Bool) (c : Cursor) : c ≤ c.skipWhile p := by
  obtain ⟨before, rest⟩ := c
  induction rest generalizing before with
  | nil => exact le_refl _
  | cons x rest ih =>
    rw [skipWhile, skipWhileFrom]
    split_ifs with hx
    · exact (le_next before x rest).trans (ih (x :: before))
    · exact le_refl _

/-- What is passed over satisfies the predicate. -/
theorem of_mem_upTo_skipWhile {p : Char → Bool} {c : Cursor} {x : Char}
    (hx : x ∈ c.upTo (c.skipWhile p)) : p x = true := by
  obtain ⟨before, rest⟩ := c
  induction rest generalizing before with
  | nil => simp [skipWhile, skipWhileFrom, upTo] at hx
  | cons y rest ih =>
    rw [skipWhile, skipWhileFrom] at hx
    split_ifs at hx with hy
    · change x ∈ upTo ⟨before, y :: rest⟩ (skipWhile p ⟨y :: before, rest⟩) at hx
      rw [upTo_cons (le_skipWhile p ⟨y :: before, rest⟩)] at hx
      rcases List.mem_cons.mp hx with rfl | hx
      · exact hy
      · exact ih (y :: before) hx
    · simp [upTo] at hx

/-- What comes next after passing over does not satisfy the predicate. -/
theorem not_of_rest_skipWhile {p : Char → Bool} {c : Cursor} {x : Char} {rest : List Char}
    (h : (c.skipWhile p).rest = x :: rest) : p x = false := by
  obtain ⟨before, ahead⟩ := c
  induction ahead generalizing before with
  | nil => simp [skipWhile, skipWhileFrom] at h
  | cons y ahead ih =>
    rw [skipWhile, skipWhileFrom] at h
    split_ifs at h with hy
    · exact ih (y :: before) h
    · obtain ⟨rfl, -⟩ := List.cons.inj h
      simpa using hy

theorem skipWhile_between {p : Char → Bool} {s : List Char} (pre post : List Char)
    (hs : ∀ x ∈ s, p x = true) (hpost : ∀ x rest, post = x :: rest → p x = false) :
    (between pre (s ++ post)).skipWhile p = between (pre ++ s) post := by
  induction s generalizing pre with
  | nil =>
    cases post with
    | nil => simp [between, skipWhile, skipWhileFrom]
    | cons x post => simp [between, skipWhile, skipWhileFrom, hpost x post rfl]
  | cons y s ih =>
    have hstep := ih (pre ++ [y]) fun x hx => hs x (List.mem_cons_of_mem y hx)
    simp only [between, skipWhile, List.reverse_append, List.reverse_cons, List.reverse_nil,
      List.nil_append, List.singleton_append, List.append_assoc] at hstep
    rw [between, skipWhile, List.cons_append, skipWhileFrom,
      if_pos (hs y (List.mem_cons_self ..)), hstep]
    simp [between]

/-- Where no character is to be skipped, the place stays. -/
theorem skipWhile_between_cons {p : Char → Bool} {x : Char} (pre post : List Char)
    (hx : p x = false) : (between pre (x :: post)).skipWhile p = between pre (x :: post) := by
  have h := @skipWhile_between p [] pre (x :: post) (by simp) (Text.forall_head hx)
  rwa [List.nil_append, List.append_nil] at h

end Cursor
end HeaderSurvey
