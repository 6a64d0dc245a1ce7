import HeaderSurvey.Proofs.Pattern.Search

/-!
# What is captured

`p.partsUnder i` are the parts of a pattern that it captures under the number `i`.  What a match has
kept under this number was taken by one of them (`exists_way_of_captured?`), so that what a part
can take says what a capture looks like, wherever the match was found.
-/

namespace HeaderSurvey.Pattern

/-- The parts of a pattern that are captured under a number. -/
def partsUnder (i : Nat) : Pattern → List Pattern
  | literal _ => []
  | one _ => []
  | many _ => []
  | seq p q => p.partsUnder i ++ q.partsUnder i
  | either p q => p.partsUnder i ++ q.partsUnder i
  | star p => p.partsUnder i
  | lazyStar p => p.partsUnder i
  | capture j p => if j = i then p :: p.partsUnder i else p.partsUnder i
  | place _ => []

/-- A stretch of a text that a part of the pattern with the number can take. -/
def TakenUnder (p : Pattern) (i : Nat) (c d : Cursor) : Prop :=
  ∃ q ∈ p.partsUnder i, ∃ g h, q.Way c g d h

theorem TakenUnder.mono {p q : Pattern} {i : Nat} {c d : Cursor}
    (hsub : ∀ r ∈ p.partsUnder i, r ∈ q.partsUnder i) (h : p.TakenUnder i c d) :
    q.TakenUnder i c d := by
  obtain ⟨r, hr, hway⟩ := h
  exact ⟨r, hsub r hr, hway⟩

/-- What is captured behind a way was captured before it or taken on it by a part of the
pattern. -/
theorem Way.of_mem_captures {p : Pattern} {c d : Cursor} {g h : Captures} (hw : p.Way c g d h)
    {i : Nat} {a b : Cursor} (hmem : (i, a, b) ∈ h) :
    (i, a, b) ∈ g ∨ p.TakenUnder i a b ∧ c ≤ a ∧ b ≤ d := by
  induction p generalizing c g d h with
  | literal chars =>
    rw [hw.2] at hmem
    exact Or.inl hmem
  | one p =>
    obtain ⟨x, -, -, -, rfl⟩ := hw
    exact Or.inl hmem
  | many p =>
    rw [hw.2.2] at hmem
    exact Or.inl hmem
  | seq p q ihp ihq =>
    obtain ⟨e, f, hp, hq⟩ := hw
    rcases ihq hq hmem with hmem | ⟨htaken, hle, hge⟩
    · rcases ihp hp hmem with hmem | ⟨htaken, hle, hge⟩
      · exact Or.inl hmem
      · refine Or.inr ⟨htaken.mono fun r hr => List.mem_append_left _ hr, hle, ?_⟩
        exact hge.trans hq.le
    · refine Or.inr ⟨htaken.mono fun r hr => List.mem_append_right _ hr, ?_, hge⟩
      exact hp.le.trans hle
  | either p q ihp ihq =>
    rcases hw with hp | hq
    · refine (ihp hp hmem).imp_right (And.imp_left ?_)
      exact TakenUnder.mono fun r hr => List.mem_append_left _ hr
    · refine (ihq hq hmem).imp_right (And.imp_left ?_)
      exact TakenUnder.mono fun r hr => List.mem_append_right _ hr
  | star p ih | lazyStar p ih =>
    -- each round leaves the captures of the rounds before it and adds its own
    have hrounds : c ≤ d ∧ ((i, a, b) ∈ h → (i, a, b) ∈ g ∨ p.TakenUnder i a b ∧ c ≤ a ∧ b ≤ d) := by
      refine Way.of_rounds (P := fun e => c ≤ e.1 ∧ ((i, a, b) ∈ e.2 →
        (i, a, b) ∈ g ∨ p.TakenUnder i a b ∧ c ≤ a ∧ b ≤ e.1)) hw ?_ ⟨le_rfl, Or.inl⟩
      rintro u v hround ⟨hle, hsofar⟩
      refine ⟨hle.trans hround.le, fun hmem => ?_⟩
      rcases ih hround hmem with hmem | ⟨htaken, hua, hbv⟩
      · refine (hsofar hmem).imp_right fun ⟨htaken, hca, hbu⟩ => ?_
        exact ⟨htaken, hca, hbu.trans hround.le⟩
      · exact Or.inr ⟨htaken, hle.trans hua, hbv⟩
    exact hrounds.2 hmem
  | capture j p ih =>
    obtain ⟨f, hp, rfl⟩ := hw
    rcases List.mem_cons.mp hmem with heq | hmem
    · obtain ⟨rfl, rfl, rfl⟩ : i = j ∧ a = c ∧ b = d := by simpa using heq
      exact Or.inr ⟨⟨p, by simp [partsUnder], g, f, hp⟩, le_refl _, le_refl _⟩
    · refine (ih hp hmem).imp_right (And.imp_left (TakenUnder.mono fun r hr => ?_))
      rw [partsUnder]
      split_ifs
      · exact List.mem_cons_of_mem _ hr
      · exact hr
  | place test =>
    rw [hw.2.2] at hmem
    exact Or.inl hmem

/-- A pattern without captures leaves what was captured before as it is. -/
theorem Way.captures_eq {p : Pattern} (hp : ∀ i, p.partsUnder i = []) {c d : Cursor}
    {g h : Captures} (hw : p.Way c g d h) : h = g := by
  induction p generalizing c g d h with
  | literal chars => exact hw.2
  | one p =>
    obtain ⟨x, -, -, -, rfl⟩ := hw
    rfl
  | many p => exact hw.2.2
  | seq p q ihp ihq =>
    obtain ⟨e, f, hpw, hqw⟩ := hw
    have hparts : ∀ i, p.partsUnder i = [] ∧ q.partsUnder i = [] :=
      fun i => List.append_eq_nil_iff.mp (hp i)
    exact (ihq (fun i => (hparts i).2) hqw).trans (ihp (fun i => (hparts i).1) hpw)
  | either p q ihp ihq =>
    have hparts : ∀ i, p.partsUnder i = [] ∧ q.partsUnder i = [] :=
      fun i => List.append_eq_nil_iff.mp (hp i)
    exact hw.elim (ihp fun i => (hparts i).1) (ihq fun i => (hparts i).2)
  | star p ih | lazyStar p ih =>
    exact Way.of_rounds (P := fun e => e.2 = g) hw (fun hround => (ih hp hround).trans) rfl
  | capture j p =>
    -- the number itself would have a part
    have hparts := hp j
    simp [partsUnder] at hparts
  | place test => exact hw.2.2

/-- What a match has kept under a number was taken by a part of the pattern with the number, and
between the ends of the match. -/
theorem takenUnder_of_capture? {p : Pattern} {c : Cursor} {m : Match}
    (hm : p.matchAt? c = some m) {i : Nat} {a b : Cursor} (h : m.capture? i = some (a, b)) :
    p.TakenUnder i a b ∧ c ≤ a ∧ b ≤ m.stop := by
  rw [Match.capture?, Option.map_eq_some_iff] at h
  obtain ⟨⟨j, a', b'⟩, hfind, heq⟩ := h
  obtain ⟨rfl, rfl⟩ := Prod.mk.inj heq
  obtain rfl : j = i := by simpa using List.find?_some hfind
  have hmem := List.mem_of_find?_eq_some hfind
  exact ((way_of_matchAt? hm).of_mem_captures hmem).resolve_left List.not_mem_nil

/-- **What a match has kept under a number was taken by a part of the pattern with the number.** -/
theorem exists_way_of_captured? {p : Pattern} {c : Cursor} {m : Match}
    (hm : p.matchAt? c = some m) {i : Nat} {s : List Char} (hs : m.captured? i = some s) :
    ∃ q ∈ p.partsUnder i, ∃ a g b h, q.Way a g b h ∧ s = a.upTo b := by
  rw [Match.captured?, Option.map_eq_some_iff] at hs
  obtain ⟨⟨a, b⟩, hcapture, rfl⟩ := hs
  obtain ⟨⟨q, hq, g, h, hway⟩, -, -⟩ := takenUnder_of_capture? hm hcapture
  exact ⟨q, hq, a, g, b, h, hway, rfl⟩

end HeaderSurvey.Pattern
