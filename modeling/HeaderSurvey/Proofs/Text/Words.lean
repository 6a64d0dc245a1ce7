import HeaderSurvey.Text.Cursor
import Mathlib.Data.List.TakeWhile

/-!
# Words and pieces of a text

Splitting a text at a separator splits what is before it and what is behind it
(`splitBy_append_cons`), and a text without separators is one piece (`splitBy_of_forall`).  Two
readings of a text follow from that: its blank-free words, which `Text.words` gives, and its `runs`
of word characters, in which a C++ keyword stands for itself.
-/

namespace HeaderSurvey.Text

/-! ### The first character outside a class -/

/-- A text can be cut in only one way in front of the first character that does not satisfy `p`. -/
theorem append_cons_inj_of_class {p : Char → Bool} {s t : List Char} {x y : Char}
    {rest rest' : List Char} (hs : ∀ z ∈ s, p z = true) (ht : ∀ z ∈ t, p z = true)
    (hx : p x = false) (hy : p y = false) (h : s ++ x :: rest = t ++ y :: rest') :
    s = t ∧ x = y ∧ rest = rest' := by
  induction s generalizing t with
  | nil =>
    cases t with
    | nil => simpa using h
    | cons z t =>
      obtain ⟨rfl, -⟩ := List.cons.inj h
      simp [ht x (List.mem_cons_self ..)] at hx
  | cons z s ih =>
    cases t with
    | nil =>
      obtain ⟨rfl, -⟩ := List.cons.inj h
      simp [hs z (List.mem_cons_self ..)] at hy
    | cons w t =>
      obtain ⟨rfl, hrest⟩ := List.cons.inj h
      obtain ⟨rfl, hxy⟩ := ih (fun x hx => hs x (List.mem_cons_of_mem z hx))
        (fun x hx => ht x (List.mem_cons_of_mem z hx)) hrest
      exact ⟨rfl, hxy⟩

/-- Every text consists of characters of a class, or goes on behind such with another one. -/
theorem forall_or_exists_first (p : Char → Bool) (s : List Char) :
    (∀ x ∈ s, p x = true) ∨
      ∃ u x v, s = u ++ x :: v ∧ (∀ z ∈ u, p z = true) ∧ p x = false := by
  induction s with
  | nil => exact Or.inl (by simp)
  | cons c s ih =>
    by_cases hc : p c = true
    · rcases ih with hall | ⟨u, x, v, rfl, hu, hx⟩
      · exact Or.inl (List.forall_mem_cons.mpr ⟨hc, hall⟩)
      · exact Or.inr ⟨c :: u, x, v, rfl, List.forall_mem_cons.mpr ⟨hc, hu⟩, hx⟩
    · exact Or.inr ⟨[], c, s, rfl, by simp, by simpa using hc⟩

/-- A text that begins with another is that text and the rest. -/
theorem eq_append_of_dropStart? {start text rest : List Char}
    (h : dropStart? start text = some rest) : text = start ++ rest := by
  induction start generalizing text with
  | nil => exact Option.some.inj h
  | cons x start ih =>
    cases text with
    | nil => simp [dropStart?] at h
    | cons y text =>
      rw [dropStart?] at h
      split_ifs at h with hxy
      rw [ih h, hxy, List.cons_append]

/-! ### Pieces -/

theorem splitBy_ne_nil (p : Char → Bool) (s : List Char) : splitBy p s ≠ [] := by
  cases s with
  | nil => simp [splitBy]
  | cons c s =>
    rw [splitBy]
    split_ifs
    · simp
    · split <;> simp

theorem splitBy_of_forall {p : Char → Bool} {s : List Char} (h : ∀ x ∈ s, p x = false) :
    splitBy p s = [s] := by
  induction s with
  | nil => rfl
  | cons c s ih =>
    obtain ⟨hc, hs⟩ := List.forall_mem_cons.mp h
    simp [splitBy, hc, ih hs]

/-- A separator splits the text before it from the text behind it. -/
theorem splitBy_append_cons {p : Char → Bool} {x : Char} (hx : p x = true) (s t : List Char) :
    splitBy p (s ++ x :: t) = splitBy p s ++ splitBy p t := by
  induction s with
  | nil => simp [splitBy, hx]
  | cons c s ih =>
    rw [List.cons_append, splitBy, splitBy]
    split_ifs with hc
    · rw [ih, List.cons_append]
    · rw [ih]
      cases hs : splitBy p s with
      | nil => exact absurd hs (splitBy_ne_nil p s)
      | cons piece pieces => rfl

/-- What follows a text is split together with its last piece. -/
theorem splitBy_append (p : Char → Bool) (s t : List Char) :
    splitBy p (s ++ t) = (splitBy p s).dropLast ++ splitBy p ((splitBy p s).getLastD [] ++ t) := by
  induction s with
  | nil => rfl
  | cons c s ih =>
    obtain ⟨piece, pieces, hs⟩ := List.exists_cons_of_ne_nil (splitBy_ne_nil p s)
    rw [hs] at ih
    rw [List.cons_append, splitBy, splitBy, hs, ih]
    split_ifs with hc
    · rfl
    · cases pieces with
      | nil => simp [splitBy, hc]
      | cons piece' pieces => rfl

theorem join_cons_cons (separator s t : List Char) (ss : List (List Char)) :
    join separator (s :: t :: ss) = s ++ separator ++ join separator (t :: ss) :=
  rfl

/-- Pieces without separators that have been joined are found again. -/
theorem splitBy_join_append_cons {p : Char → Bool} {x : Char} (hx : p x = true)
    {ss : List (List Char)} (hss : ∀ s ∈ ss, ∀ y ∈ s, p y = false) (hne : ss ≠ [])
    (t : List Char) : splitBy p (join [x] ss ++ x :: t) = ss ++ splitBy p t := by
  induction ss with
  | nil => exact absurd rfl hne
  | cons s ss ih =>
    obtain ⟨hs, hss⟩ := List.forall_mem_cons.mp hss
    cases ss with
    | nil => rw [join, splitBy_append_cons hx, splitBy_of_forall hs]
    | cons s' ss =>
      rw [join_cons_cons, List.append_assoc, List.append_assoc, List.singleton_append,
        splitBy_append_cons hx, splitBy_of_forall hs, ih hss (List.cons_ne_nil s' ss)]
      rfl

/-- No separator is left in the pieces. -/
theorem not_of_mem_splitBy {p : Char → Bool} {s piece : List Char} (h : piece ∈ splitBy p s)
    {x : Char} (hx : x ∈ piece) : p x = false := by
  induction s generalizing piece with
  | nil =>
    rw [splitBy, List.mem_singleton] at h
    simp [h] at hx
  | cons c s ih =>
    rw [splitBy] at h
    split_ifs at h with hc
    · rcases List.mem_cons.mp h with rfl | h
      · simp at hx
      · exact ih h hx
    · cases hs : splitBy p s with
      | nil => exact absurd hs (splitBy_ne_nil p s)
      | cons first pieces =>
        rw [hs] at h
        rcases List.mem_cons.mp h with rfl | h
        · rcases List.mem_cons.mp hx with rfl | hx
          · simpa using hc
          · exact ih (hs ▸ List.mem_cons_self ..) hx
        · exact ih (hs ▸ List.mem_cons_of_mem _ h) hx

theorem join_append_singleton {separator : List Char} {ss : List (List Char)} (hne : ss ≠ [])
    (t : List Char) : join separator (ss ++ [t]) = join separator ss ++ separator ++ t := by
  induction ss with
  | nil => exact absurd rfl hne
  | cons s ss ih =>
    cases ss with
    | nil => rfl
    | cons s' ss =>
      rw [List.cons_append, List.cons_append, join_cons_cons, ← List.cons_append,
        ih (List.cons_ne_nil s' ss), join_cons_cons]
      simp only [List.append_assoc]

/-- The pieces of a text give it back. -/
theorem join_splitBy (c : Char) (s : List Char) : join [c] (splitBy (· = c) s) = s := by
  induction s with
  | nil => rfl
  | cons x s ih =>
    rw [splitBy]
    cases hs : splitBy (· = c) s with
    | nil => exact absurd hs (splitBy_ne_nil _ s)
    | cons piece pieces =>
      rw [hs] at ih
      split_ifs with hx
      · have hxc : x = c := by simpa using hx
        rw [join_cons_cons, ih, hxc]
        rfl
      · cases pieces with
        | nil => rw [← ih]; rfl
        | cons piece' pieces =>
          rw [join_cons_cons] at ih ⊢
          rw [← ih]
          rfl

theorem mem_join {x : Char} {separator : List Char} {ss : List (List Char)}
    (h : x ∈ join separator ss) : x ∈ separator ∨ ∃ s ∈ ss, x ∈ s := by
  induction ss with
  | nil => simp [join] at h
  | cons s ss ih =>
    cases ss with
    | nil => exact Or.inr ⟨s, by simp, by simpa [join] using h⟩
    | cons s' ss =>
      rw [join, List.mem_append, List.mem_append] at h
      · rcases h with (h | h) | h
        · exact Or.inr ⟨s, by simp, h⟩
        · exact Or.inl h
        · rcases ih h with h | ⟨t, ht, hx⟩
          · exact Or.inl h
          · exact Or.inr ⟨t, List.mem_cons_of_mem s ht, hx⟩
      · simp

/-! ### Blank-free words -/

@[simp] theorem words_nil : words [] = [] :=
  rfl

theorem words_append_cons {x : Char} (hx : isBlank x = true) (s t : List Char) :
    words (s ++ x :: t) = words s ++ words t := by
  rw [words, splitBy_append_cons hx, List.filter_append, words, words]

theorem words_of_forall {s : List Char} (hs : s ≠ []) (h : ∀ x ∈ s, isBlank x = false) :
    words s = [s] := by
  rw [words, splitBy_of_forall h]
  simp [List.isEmpty_eq_false_iff.mpr hs]

theorem words_blanks_append {blanks : List Char} (h : ∀ x ∈ blanks, isBlank x = true)
    (s : List Char) : words (blanks ++ s) = words s := by
  induction blanks with
  | nil => rfl
  | cons x blanks ih =>
    obtain ⟨hx, hblanks⟩ := List.forall_mem_cons.mp h
    have hfirst := words_append_cons hx [] (blanks ++ s)
    rw [List.nil_append, words_nil, List.nil_append] at hfirst
    rw [List.cons_append, hfirst, ih hblanks]

/-- Blanks end a word. -/
theorem words_append_blanks {word blanks : List Char} (hword : word ≠ [])
    (hchars : ∀ x ∈ word, isBlank x = false) (hne : blanks ≠ [])
    (hblanks : ∀ x ∈ blanks, isBlank x = true) (s : List Char) :
    words (word ++ (blanks ++ s)) = word :: words s := by
  obtain ⟨x, blanks, rfl⟩ := List.exists_cons_of_ne_nil hne
  obtain ⟨hx, hblanks⟩ := List.forall_mem_cons.mp hblanks
  rw [List.cons_append, words_append_cons hx, words_of_forall hword hchars,
    words_blanks_append hblanks, List.singleton_append]

theorem trimStart_append {s : List Char} (t : List Char) (hs : s ≠ [])
    (h : ∀ x ∈ s, isBlank x = false) : trimStart (s ++ t) = s ++ t := by
  obtain ⟨x, s, rfl⟩ := List.exists_cons_of_ne_nil hs
  simp [trimStart, h x (List.mem_cons_self ..)]

theorem trimEnd_append {t : List Char} (s : List Char) (ht : t ≠ [])
    (h : ∀ x ∈ t, isBlank x = false) : trimEnd (s ++ t) = s ++ t := by
  have hback := trimStart_append s.reverse (List.reverse_ne_nil_iff.mpr ht)
    fun x hx => h x (List.mem_reverse.mp hx)
  rw [trimEnd, List.reverse_append, ← trimStart, hback, ← List.reverse_append,
    List.reverse_reverse]

/-- A text without blanks at its ends has none around it. -/
theorem trim_of_ends {s t : List Char} (m : List Char) (hs : s ≠ []) (ht : t ≠ [])
    (hstart : ∀ x ∈ s, isBlank x = false) (hend : ∀ x ∈ t, isBlank x = false) :
    trim (s ++ m ++ t) = s ++ m ++ t := by
  rw [trim, List.append_assoc, trimStart_append _ hs hstart, ← List.append_assoc,
    trimEnd_append _ ht hend]

/-- A text without blanks has none around it. -/
theorem trim_of_forall {s : List Char} (h : ∀ x ∈ s, isBlank x = false) : trim s = s := by
  by_cases hs : s = []
  · rw [hs]
    rfl
  · have hstart := trimStart_append [] hs h
    have hend := trimEnd_append [] hs h
    rw [List.append_nil] at hstart
    rw [trim, hstart, ← List.nil_append s, hend]

/-- Of a word between blanks the word is left. -/
theorem trim_of_blanks {front word back : List Char} (hfront : ∀ x ∈ front, isBlank x = true)
    (hword : ∀ x ∈ word, isBlank x = false) (hback : ∀ x ∈ back, isBlank x = true) :
    trim (front ++ (word ++ back)) = word := by
  rw [trim, trimStart, List.dropWhile_append_of_pos hfront]
  by_cases hne : word = []
  · rw [hne, List.nil_append, List.dropWhile_eq_nil_iff.mpr hback]
    rfl
  · have hback' : ∀ x ∈ back.reverse, isBlank x = true :=
      fun x hx => hback x (List.mem_reverse.mp hx)
    have hend := trimEnd_append [] hne hword
    rw [List.nil_append, trimEnd] at hend
    rw [← trimStart, trimStart_append back hne hword, trimEnd, List.reverse_append,
      List.dropWhile_append_of_pos hback', hend]

/-- A text is what is left of it and blanks around that. -/
theorem exists_eq_trim (s : List Char) :
    ∃ front back, s = front ++ (trim s ++ back) ∧ (∀ x ∈ front, isBlank x = true) ∧
      ∀ x ∈ back, isBlank x = true := by
  refine ⟨s.takeWhile isBlank, ((trimStart s).reverse.takeWhile isBlank).reverse, ?_, ?_, ?_⟩
  · have hend : trim s ++ ((trimStart s).reverse.takeWhile isBlank).reverse = trimStart s := by
      rw [trim, trimEnd, ← List.reverse_append, List.takeWhile_append_dropWhile,
        List.reverse_reverse]
    rw [hend]
    exact (List.takeWhile_append_dropWhile).symm
  · exact fun x hx => List.mem_takeWhile_imp hx
  · exact fun x hx => List.mem_takeWhile_imp (List.mem_reverse.mp hx)

theorem trimEnd_prefix_self (s : List Char) : trimEnd s <+: s := by
  rw [trimEnd, ← List.reverse_suffix, List.reverse_reverse]
  exact List.dropWhile_suffix isBlank

theorem trim_infix (s : List Char) : trim s <:+: s :=
  (trimEnd_prefix_self (trimStart s)).isInfix.trans (List.dropWhile_suffix isBlank).isInfix

/-- A beginning of what is left begins with no blank. -/
theorem trimStart_of_prefix {s t : List Char} (h : t <+: trimStart s) : trimStart t = t := by
  cases t with
  | nil => rfl
  | cons x t =>
    obtain ⟨rest, hrest⟩ := h
    have hx : isBlank x = false := by
      have hhead := List.head?_dropWhile_not isBlank s
      rw [← trimStart, ← hrest] at hhead
      simpa using hhead
    rw [trimStart, List.dropWhile_cons_of_neg (by simp [hx])]

/-- Trimming once is enough. -/
theorem trim_trim (s : List Char) : trim (trim s) = trim s := by
  have hstart : trimStart (trim s) = trim s :=
    trimStart_of_prefix (trimEnd_prefix_self (trimStart s))
  have hend : trimEnd (trim s) = trim s := by
    rw [trim, trimEnd, trimEnd, List.reverse_reverse, ← trimStart, ← trimStart,
      trimStart_of_prefix (List.prefix_refl _)]
  rw [trim, hstart, hend]

/-! ### Runs of word characters -/

/-- The pieces between the characters that belong to no word. -/
def runs (s : List Char) : List (List Char) :=
  splitBy (!isWordChar ·) s

theorem runs_append_cons {x : Char} (hx : isWordChar x = false) (s t : List Char) :
    runs (s ++ x :: t) = runs s ++ runs t :=
  splitBy_append_cons (by simp [hx]) s t

theorem runs_of_forall {s : List Char} (h : ∀ x ∈ s, isWordChar x = true) : runs s = [s] :=
  splitBy_of_forall fun x hx => by simp [h x hx]

/-- What is a run behind the end of a word is a run of the whole text. -/
theorem mem_runs_append {u v w : List Char} (hu : Cursor.headIsWord u.reverse = false)
    (hw : w ∈ runs v) : w ∈ runs (u ++ v) := by
  rcases List.eq_nil_or_concat u with rfl | ⟨u, x, rfl⟩
  · exact hw
  · rw [List.concat_eq_append, List.reverse_append] at hu
    have hx : isWordChar x = false := hu
    rw [List.concat_eq_append, List.append_assoc, List.singleton_append, runs_append_cons hx]
    exact List.mem_append_right _ hw

/-- Word characters that stand between other characters are a run, also when the last of these
already belongs to the text that follows. -/
theorem mem_runs_of_start {u v w rest rest' : List Char} {x y : Char}
    (hu : Cursor.headIsWord u.reverse = false) (hw : ∀ z ∈ w, isWordChar z = true)
    (hx : isWordChar x = false) (hy : isWordChar y = false)
    (h : v ++ x :: rest = w ++ y :: rest') : w ∈ runs (u ++ v) := by
  refine mem_runs_append hu ?_
  rcases forall_or_exists_first isWordChar v with hv | ⟨v, z, v', rfl, hv, hz⟩
  · obtain ⟨rfl, -⟩ := append_cons_inj_of_class hv hw hx hy h
    rw [runs_of_forall hv]
    exact List.mem_singleton_self v
  · rw [List.append_assoc, List.cons_append] at h
    obtain ⟨rfl, -⟩ := append_cons_inj_of_class hv hw hz hy h
    rw [runs_append_cons hz, runs_of_forall hv]
    exact List.mem_append_left _ (List.mem_singleton_self v)

end HeaderSurvey.Text
