import HeaderSurvey.Proofs.Pattern.Ways
import HeaderSurvey.Proofs.Text.Words

/-!
# The preferred way

The lemmas here follow `run` along the way that it prefers, from one part of a pattern to the next.
A part that has no way at a place has no answer there (`run_eq_none_of_way`), so the alternatives
that are tried in vain can be passed over; and a part that can be matched hands on to what follows
as soon as that succeeds.

Each lemma says so for a place `between pre (s ++ post)`, of which `s` is what the part takes.
-/

namespace HeaderSurvey.Pattern

variable {g : Captures} {k : Cursor → Captures → Option MatchEnd} {o : MatchEnd}

/-! ### Parts without a way -/

/-- A pattern without a way at a place has no answer there. -/
theorem run_eq_none_of_way {p : Pattern} {c : Cursor} (h : ∀ d f, ¬ p.Way c g d f) :
    p.run c g k = none := by
  rcases ho : p.run c g k with _ | o
  · rfl
  · obtain ⟨d, f, hway, -⟩ := exists_way_of_run ho
    exact absurd hway (h d f)

theorem rest_of_way_literal {s : List Char} {c d : Cursor} {f : Captures}
    (h : (literal s).Way c g d f) : c.rest = s ++ d.rest := by
  obtain ⟨hle, hup⟩ := Cursor.skipText?_eq_some h.1
  rw [Cursor.rest_eq_upTo hle, hup]

/-- A pattern over a class and then a literal have no way where what stands first outside the class
is another character than the literal begins with. -/
theorem not_way_over_literal {p : Char → Bool} {q : Pattern} (hq : q.Over (p · = true))
    {pre s post w : List Char} {x y : Char} (hs : ∀ z ∈ s, p z = true) (hx : p x = false)
    (hy : p y = false) (hxy : y ≠ x) {d : Cursor} {f : Captures} :
    ¬ (q ++ literal (x :: w)).Way (Cursor.between pre (s ++ y :: post)) g d f := by
  rintro ⟨e, f', hway, hlit⟩
  have hrest := Cursor.rest_eq_upTo hway.le
  rw [rest_of_way_literal hlit] at hrest
  exact hxy (Text.append_cons_inj_of_class hs (hway.of_mem_upTo hq) hy hx hrest).2.1

/-- A pattern that begins with a part without a way has none. -/
theorem not_way_seq {p q : Pattern} {c d : Cursor} {f : Captures} (h : ∀ d f, ¬ p.Way c g d f) :
    ¬ (p ++ q).Way c g d f := by
  rintro ⟨e, f', hway, -⟩
  exact h e f' hway

/-- A literal has no way in front of another character than its first. -/
theorem not_way_literal {pre post w : List Char} {x y : Char} (hxy : y ≠ x) {d : Cursor}
    {f : Captures} : ¬ (literal (x :: w)).Way (Cursor.between pre (y :: post)) g d f := by
  intro h
  have hrest := rest_of_way_literal h
  exact hxy (List.cons.inj hrest).1

/-! ### Parts with a way -/

theorem run_literal_between {pre s post : List Char} :
    (literal s).run (Cursor.between pre (s ++ post)) g k = k (Cursor.between (pre ++ s) post) g := by
  rw [run_literal, Cursor.skipText?_between]

theorem run_one_between {p : Char → Bool} {pre post : List Char} {x : Char} (hx : p x = true) :
    (one p).run (Cursor.between pre (x :: post)) g k = k (Cursor.between (pre ++ [x]) post) g := by
  rw [Cursor.between, run_one_cons, if_pos hx, Cursor.between, List.reverse_append]
  rfl

theorem run_one_of_ne {p : Char → Bool} {pre post : List Char} {x : Char} (hx : p x = false) :
    (one p).run (Cursor.between pre (x :: post)) g k = none := by
  rw [Cursor.between, run_one_cons, hx]
  rfl

/-! ### Repetitions of a class -/

section RunMany

variable {p : Char → Bool} {k : Cursor → Option MatchEnd} {pre s post : List Char}

/-- Behind the last character of the class nothing more is taken. -/
theorem runMany_of_head (pre : List Char) (hpost : ∀ x rest, post = x :: rest → p x = false) :
    runMany p k pre.reverse post = k (Cursor.between pre post) := by
  cases post with
  | nil => rfl
  | cons x rest =>
    have hx : ¬ p x = true := by simp [hpost x rest rfl]
    rw [runMany, if_neg hx]
    rfl

/-- One more character of the class is taken first. -/
theorem runMany_cons {x : Char} (hx : p x = true) :
    runMany p k pre.reverse (x :: s) =
      match runMany p k (pre ++ [x]).reverse s with
      | some o => some o
      | none => k (Cursor.between pre (x :: s)) := by
  rw [runMany, if_pos hx, List.reverse_append]
  rfl

/-- There is no answer if what follows succeeds nowhere in a stretch of the class. -/
theorem runMany_eq_none (hs : ∀ x ∈ s, p x = true)
    (hpost : ∀ x rest, post = x :: rest → p x = false)
    (hk : ∀ u v, s = u ++ v → k (Cursor.between (pre ++ u) (v ++ post)) = none) :
    runMany p k pre.reverse (s ++ post) = none := by
  induction s generalizing pre with
  | nil =>
    have hend := hk [] [] rfl
    rw [List.append_nil] at hend
    rw [List.nil_append, runMany_of_head pre hpost]
    exact hend
  | cons x s ih =>
    obtain ⟨hx, hs⟩ := List.forall_mem_cons.mp hs
    have hmore : runMany p k (pre ++ [x]).reverse (s ++ post) = none := by
      refine ih hs fun u v huv => ?_
      rw [List.append_assoc]
      exact hk (x :: u) v (by rw [huv, List.cons_append])
    have hhere := hk [] (x :: s) rfl
    rw [List.append_nil] at hhere
    rw [List.cons_append, runMany_cons hx, hmore]
    exact hhere

/-- What is the answer behind a stretch of the class is the answer in front of it. -/
theorem runMany_append {o : MatchEnd} (hs : ∀ x ∈ s, p x = true)
    (h : runMany p k (pre ++ s).reverse post = some o) :
    runMany p k pre.reverse (s ++ post) = some o := by
  induction s generalizing pre with
  | nil =>
    rw [List.append_nil] at h
    exact h
  | cons x s ih =>
    obtain ⟨hx, hs⟩ := List.forall_mem_cons.mp hs
    rw [← List.singleton_append, ← List.append_assoc] at h
    rw [List.cons_append, runMany_cons hx, ih hs h]

end RunMany

/-- A greedy repetition of a class gives characters back until what follows succeeds. -/
theorem run_many_back {p : Char → Bool} {pre s back post : List Char}
    (hs : ∀ x ∈ s ++ back, p x = true) (hpost : ∀ x rest, post = x :: rest → p x = false)
    (hback : ∀ u v, back = u ++ v → u ≠ [] → k (Cursor.between (pre ++ s ++ u) (v ++ post)) g = none)
    (hk : k (Cursor.between (pre ++ s) (back ++ post)) g = some o) :
    (many p).run (Cursor.between pre (s ++ (back ++ post))) g k = some o := by
  obtain ⟨hs, hall⟩ := List.forall_mem_append.mp hs
  refine runMany_append (k := fun c => k c g) hs ?_
  cases back with
  | nil =>
    rw [List.nil_append] at hk ⊢
    rw [runMany_of_head (pre ++ s) hpost]
    exact hk
  | cons x v =>
    obtain ⟨hx, hv⟩ := List.forall_mem_cons.mp hall
    -- everything behind the first character of `back` is tried in vain
    have hmore : runMany p (fun c => k c g) (pre ++ s ++ [x]).reverse (v ++ post) = none := by
      refine runMany_eq_none hv hpost fun u w huw => ?_
      rw [List.append_assoc _ [x] u]
      exact hback (x :: u) w (by rw [huw, List.cons_append]) (List.cons_ne_nil x u)
    rw [List.cons_append, runMany_cons hx, hmore]
    exact hk

/-- A greedy repetition takes all characters of its class if what follows then succeeds. -/
theorem run_many_of_some {p : Char → Bool} {pre s post : List Char} (hs : ∀ x ∈ s, p x = true)
    (hpost : ∀ x rest, post = x :: rest → p x = false)
    (hk : k (Cursor.between (pre ++ s) post) g = some o) :
    (many p).run (Cursor.between pre (s ++ post)) g k = some o := by
  have hback : ∀ u v : List Char, [] = u ++ v → u ≠ [] →
      k (Cursor.between (pre ++ s ++ u) (v ++ post)) g = none := by
    intro u v huv hne
    exact absurd (List.append_eq_nil_iff.mp huv.symm).1 hne
  exact @run_many_back g k o p pre s [] post (by simpa using hs) hpost hback hk

/-- One character and then all that follow in a class. -/
theorem run_one_many_of_some {p q : Char → Bool} {pre s post : List Char} {x : Char}
    (hx : p x = true) (hs : ∀ x ∈ s, q x = true) (hpost : ∀ x rest, post = x :: rest → q x = false)
    (hk : k (Cursor.between (pre ++ x :: s) post) g = some o) :
    (one p ++ many q).run (Cursor.between pre (x :: s ++ post)) g k = some o := by
  rw [run_seq, List.cons_append, run_one_between hx]
  apply run_many_of_some hs hpost
  rw [List.append_assoc, List.singleton_append]
  exact hk

/-- One character of a class in front of one outside it. -/
theorem run_oneOrMore_of_some {p : Char → Bool} {pre post : List Char} {x : Char} (hx : p x = true)
    (hpost : ∀ x rest, post = x :: rest → p x = false)
    (hk : k (Cursor.between (pre ++ [x]) post) g = some o) :
    (oneOrMore p).run (Cursor.between pre (x :: post)) g k = some o :=
  @run_one_many_of_some g k o p p pre [] post x hx (by simp) hpost hk

theorem run_either_of_some {p q : Pattern} {c : Cursor} (h : p.run c g k = some o) :
    (p <|> q).run c g k = some o := by
  rw [run_either, h]

theorem run_either_of_none {p q : Pattern} {c : Cursor} (h : p.run c g k = none) :
    (p <|> q).run c g k = q.run c g k := by
  rw [run_either, h]

theorem run_optional_of_some {p : Pattern} {c : Cursor} (h : p.run c g k = some o) :
    (optional p).run c g k = some o :=
  run_either_of_some h

theorem run_optional_of_none {p : Pattern} {c : Cursor} (h : p.run c g k = none) :
    (optional p).run c g k = k c g := by
  change (p <|> literal []).run c g k = k c g
  rw [run_either_of_none h, run_literal]
  rfl

/-- A repetition whose body has no way is passed over. -/
theorem run_star_of_none {p : Pattern} {c : Cursor} (h : ∀ k, p.run c g k = none) :
    (star p).run c g k = k c g := by
  rw [run_star]
  cases c.rest with
  | nil => rfl
  | cons x rest => rw [runStar, h]

/-- The rounds of a repetition of single characters over a stretch: each character pays for its own
round from the budget. -/
theorem runStar_of_some {p : Pattern} {pre s post : List Char}
    (hs : ∀ pre x post g k o, x ∈ s → k (Cursor.between (pre ++ [x]) post) g = some o →
      p.run (Cursor.between pre (x :: post)) g k = some o)
    (hpost : ∀ k, p.run (Cursor.between (pre ++ s) post) g k = none)
    (hk : k (Cursor.between (pre ++ s) post) g = some o) :
    runStar p.run (s ++ post) (Cursor.between pre (s ++ post)) g k = some o := by
  induction s generalizing pre with
  | nil =>
    rw [List.append_nil] at hpost hk
    rw [List.nil_append]
    cases post with
    | nil => exact hk
    | cons x rest =>
      rw [runStar, hpost]
      exact hk
  | cons x s ih =>
    rw [← List.singleton_append, ← List.append_assoc] at hpost hk
    have hmore := ih (fun pre y post g k o hy => hs pre y post g k o (List.mem_cons_of_mem x hy))
      hpost hk
    have hround := hs pre x (s ++ post) g (fun c g => runStar p.run (s ++ post) c g k) o
      (List.mem_cons_self ..) hmore
    rw [List.cons_append, runStar, hround]

/-- A greedy repetition of single characters takes a whole stretch, if its body has no way behind
the stretch and what follows succeeds there. -/
theorem run_star_of_some {p : Pattern} {pre s post : List Char}
    (hs : ∀ pre x post g k o, x ∈ s → k (Cursor.between (pre ++ [x]) post) g = some o →
      p.run (Cursor.between pre (x :: post)) g k = some o)
    (hpost : ∀ k, p.run (Cursor.between (pre ++ s) post) g k = none)
    (hk : k (Cursor.between (pre ++ s) post) g = some o) :
    (star p).run (Cursor.between pre (s ++ post)) g k = some o := by
  rw [run_star]
  exact runStar_of_some hs hpost hk

theorem run_lazyStar_of_some {p : Pattern} {c : Cursor} (h : k c g = some o) :
    (lazyStar p).run c g k = some o := by
  rw [run_lazyStar]
  cases c.rest with
  | nil => exact h
  | cons x rest => rw [runLazyStar, h]

theorem matchAt?_of_run {p : Pattern} {c d : Cursor}
    (h : p.run c [] (fun d g => some (d, g)) = some (d, g)) : p.matchAt? c = some ⟨c, d, g⟩ := by
  rw [matchAt?, h]

/-- What was captured last is found under its number. -/
theorem captured?_cons (start stop : Cursor) (i : Nat) (pre s post : List Char) (g : Captures) :
    Match.captured? ⟨start, stop,
      (i, Cursor.between pre (s ++ post), Cursor.between (pre ++ s) post) :: g⟩ i = some s := by
  rw [Match.captured?, Match.capture?, List.find?_cons_of_pos (by simp), Option.map_some,
    Option.map_some]
  exact congrArg some (Cursor.upTo_between pre s post)

end HeaderSurvey.Pattern
