import HeaderSurvey.Proofs.Pattern.Preferred
import Mathlib.Data.List.Infix

/-!
# Patterns in front of something that always succeeds

A way of a pattern says what a match can look like, but not that a repetition takes all it can.
Where what follows succeeds everywhere (`Succeeds`), nothing is ever given back: a greedy repetition
of a class takes all of the class (`run_many_eq`), and a lazy repetition of any characters in front
of a text ends at the first place where this text stands (`run_until_eq_some_iff`).
-/

namespace HeaderSurvey.Pattern

/-- What follows succeeds wherever it is tried. -/
def Succeeds (k : Cursor → Captures → Option MatchEnd) : Prop :=
  ∀ c g, ∃ o, k c g = some o

variable {g : Captures} {k : Cursor → Captures → Option MatchEnd} {o : MatchEnd}

theorem succeeds_some : Succeeds fun d g => some (d, g) :=
  fun d g => ⟨(d, g), rfl⟩

/-- To keep an extent does not make a success fail. -/
theorem Succeeds.capture (hk : Succeeds k) (i : Nat) (c : Cursor) :
    Succeeds fun d g => k d ((i, c, d) :: g) :=
  fun d g => hk d ((i, c, d) :: g)

/-- A repetition succeeds everywhere, with no round if need be. -/
theorem Succeeds.rounds (hk : Succeeds k) (p : Pattern) (budget : List Char) :
    Succeeds fun c g => runStar p.run budget c g k := by
  intro c g
  cases budget with
  | nil => exact hk c g
  | cons x budget =>
    change ∃ o, runStar p.run (x :: budget) c g k = some o
    rw [runStar]
    split
    · next o _ => exact ⟨o, rfl⟩
    · exact hk c g

/-- A repetition succeeds everywhere. -/
theorem Succeeds.star (hk : Succeeds k) (p : Pattern) :
    Succeeds fun c g => (star p).run c g k :=
  fun c g => hk.rounds p c.rest c g

/-- All characters of a class are taken. -/
theorem run_many_eq (hk : Succeeds k) {p : Char → Bool} {pre s post : List Char}
    (hs : ∀ x ∈ s, p x = true) (hpost : ∀ x rest, post = x :: rest → p x = false) :
    (many p).run (Cursor.between pre (s ++ post)) g k = k (Cursor.between (pre ++ s) post) g := by
  obtain ⟨o, ho⟩ := hk (Cursor.between (pre ++ s) post) g
  rw [run_many_of_some hs hpost ho, ho]

/-- A text has no way where something else stands. -/
theorem run_literal_eq_none {w pre rest : List Char} (h : ∀ post, rest ≠ w ++ post) :
    (literal w).run (Cursor.between pre rest) g k = none :=
  run_eq_none_of_way fun d _ hway => h d.rest (rest_of_way_literal hway)

/-- A text is passed over where it stands. -/
theorem exists_of_run_literal {w pre rest : List Char}
    (h : (literal w).run (Cursor.between pre rest) g k = some o) :
    ∃ post, rest = w ++ post ∧ k (Cursor.between (pre ++ w) post) g = some o := by
  by_cases hpost : ∃ post, rest = w ++ post
  · obtain ⟨post, rfl⟩ := hpost
    rw [run_literal_between] at h
    exact ⟨post, rfl, h⟩
  · push Not at hpost
    rw [run_literal_eq_none hpost] at h
    exact nomatch h

/-- An optional part is taken or passed over. -/
theorem run_or_of_run_optional {p : Pattern} {c : Cursor} (h : (optional p).run c g k = some o) :
    p.run c g k = some o ∨ k c g = some o := by
  rw [optional] at h
  replace h := (run_either c g k p (literal [])).symm.trans h
  split at h
  · next o' htaken => exact Or.inl (htaken.trans h)
  · exact Or.inr h

/-! ### Up to the first occurrence of a text -/

/-- In `s ++ w` the text `w` stands at the end and nowhere before. -/
def EndsFirst (w s : List Char) : Prop :=
  ∀ u v, s ++ w = u ++ w ++ v → v = []

/-- Only the beginnings of the text matter. -/
theorem endsFirst_iff {w s : List Char} :
    EndsFirst w s ↔ ∀ t ∈ (s ++ w).inits, w <:+ t → t = s ++ w := by
  constructor
  · intro h t ht hw
    obtain ⟨v, hv⟩ := List.mem_inits t (s ++ w) |>.mp ht
    obtain ⟨u, rfl⟩ := hw
    rw [h u v hv.symm, List.append_nil] at hv
    exact hv
  · intro h u v huv
    have hprefix : u ++ w <+: s ++ w := ⟨v, huv.symm⟩
    have heq := h (u ++ w) (List.mem_inits _ _ |>.mpr hprefix) (List.suffix_append u w)
    rw [← heq] at huv
    exact List.self_eq_append_right.mp huv

instance (w s : List Char) : Decidable (EndsFirst w s) :=
  decidable_of_iff' _ endsFirst_iff

theorem endsFirst_nil (w : List Char) : EndsFirst w [] := by
  intro u v h
  have hlen := congrArg List.length h
  simp only [List.nil_append, List.length_append] at hlen
  exact List.length_eq_zero_iff.mp (by omega)

/-- What stands in front of the first occurrence grows by a character at which none begins. -/
theorem endsFirst_cons {w s : List Char} {x : Char} (h : ∀ v, x :: (s ++ w) ≠ w ++ v) :
    EndsFirst w (x :: s) ↔ EndsFirst w s := by
  constructor
  · intro hfirst u v huv
    exact hfirst (x :: u) v (by rw [List.cons_append, huv, List.cons_append, List.cons_append])
  · intro hfirst u v huv
    cases u with
    | nil => exact absurd huv (h v)
    | cons y u => exact hfirst u v (List.cons.inj huv).2

/-- Nothing is passed over in front of an occurrence. -/
theorem eq_nil_of_endsFirst {w s post post' : List Char} (h : EndsFirst w s)
    (heq : w ++ post = s ++ w ++ post') : s = [] := by
  have hprefix : w <+: s ++ w :=
    List.prefix_of_prefix_length_le (List.prefix_append w post) ⟨post', heq.symm⟩ (by simp)
  obtain ⟨v, hv⟩ := hprefix
  obtain rfl := h [] v (by rw [List.nil_append, hv])
  exact List.append_left_eq_self.mp (by rw [← hv, List.append_nil])

/-- A lazy repetition in front of a text ends where the text stands. -/
theorem runLazyStar_of_here (hk : Succeeds k) {w pre rest post : List Char} {x : Char}
    (hpost : x :: rest = w ++ post) :
    runLazyStar (one fun _ => true).run (x :: rest) (Cursor.between pre (x :: rest)) g
        (fun c g => (literal w).run c g k) = k (Cursor.between (pre ++ w) post) g := by
  obtain ⟨o, ho⟩ := hk (Cursor.between (pre ++ w) post) g
  rw [runLazyStar, hpost, run_literal_between, ho]

/-- Where the text does not stand it goes on by one character. -/
theorem runLazyStar_of_not_here {w pre rest : List Char} {x : Char}
    (hhere : ∀ post, x :: rest ≠ w ++ post) :
    runLazyStar (one fun _ => true).run (x :: rest) (Cursor.between pre (x :: rest)) g
        (fun c g => (literal w).run c g k) =
      runLazyStar (one fun _ => true).run rest (Cursor.between (pre ++ [x]) rest) g
        fun c g => (literal w).run c g k := by
  rw [runLazyStar, run_literal_eq_none hhere]
  exact run_one_between rfl

/-- A lazy repetition goes on, character by character, until the text stands there. -/
theorem runLazyStar_eq_some_iff (hk : Succeeds k) {w : List Char} (hw : w ≠ [])
    {pre rest : List Char} :
    runLazyStar (one fun _ => true).run rest (Cursor.between pre rest) g
        (fun c g => (literal w).run c g k) = some o ↔
      ∃ s post, rest = s ++ w ++ post ∧ EndsFirst w s ∧
        k (Cursor.between (pre ++ s ++ w) post) g = some o := by
  induction rest generalizing pre with
  | nil =>
    have hnone : (literal w).run (Cursor.between pre []) g k = none :=
      run_literal_eq_none fun post h => hw (List.append_eq_nil_iff.mp h.symm).1
    rw [runLazyStar, hnone]
    constructor
    · intro h
      cases h
    · rintro ⟨s, post, hrest, -, -⟩
      exact absurd (List.append_eq_nil_iff.mp (List.append_eq_nil_iff.mp hrest.symm).1).2 hw
  | cons x rest ih =>
    by_cases hhere : ∃ post, x :: rest = w ++ post
    · obtain ⟨post, hpost⟩ := hhere
      rw [runLazyStar_of_here hk hpost, hpost]
      constructor
      · intro ho
        exact ⟨[], post, rfl, endsFirst_nil w, by rw [List.append_nil, ho]⟩
      · rintro ⟨s, post', heq, hfirst, ho⟩
        obtain rfl := eq_nil_of_endsFirst hfirst heq
        obtain rfl : post = post' := List.append_cancel_left heq
        rw [List.append_nil] at ho
        exact ho
    · push Not at hhere
      -- the text does not begin at this character, wherever it ends
      have hcons : ∀ s post, rest = s ++ w ++ post → (EndsFirst w (x :: s) ↔ EndsFirst w s) := by
        intro s post hrest
        refine endsFirst_cons fun v hv => hhere (v ++ post) ?_
        rw [hrest, ← List.append_assoc, ← hv, List.cons_append]
      rw [runLazyStar_of_not_here hhere, ih]
      constructor
      · rintro ⟨s, post, hrest, hfirst, ho⟩
        refine ⟨x :: s, post, congrArg (x :: ·) hrest, (hcons s post hrest).mpr hfirst, ?_⟩
        rw [List.append_assoc pre [x] s] at ho
        exact ho
      · rintro ⟨s, post, heq, hfirst, ho⟩
        cases s with
        | nil => exact absurd heq (hhere post)
        | cons y s =>
          obtain ⟨rfl, htail⟩ := List.cons.inj heq
          have hrest : rest = s ++ w ++ post := htail
          refine ⟨s, post, hrest, (hcons s post hrest).mp hfirst, ?_⟩
          rw [List.append_assoc pre [x] s]
          exact ho

/-- **Any characters and then a text end behind the first occurrence of the text.** -/
theorem run_until_eq_some_iff (hk : Succeeds k) {w : List Char} (hw : w ≠ [])
    {pre rest : List Char} :
    (lazyStar (one fun _ => true) ++ literal w).run (Cursor.between pre rest) g k = some o ↔
      ∃ s post, rest = s ++ w ++ post ∧ EndsFirst w s ∧
        k (Cursor.between (pre ++ s ++ w) post) g = some o := by
  rw [run_seq, run_lazyStar, Cursor.rest_between]
  exact runLazyStar_eq_some_iff hk hw

end HeaderSurvey.Pattern
