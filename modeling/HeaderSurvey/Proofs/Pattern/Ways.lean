import HeaderSurvey.Pattern.Basic
import HeaderSurvey.Proofs.Text.Cursor
import Mathlib.Logic.Relation

/-!
# The ways in which a pattern can match

`p.Way c g d h` says that `p` can lead from the place `c`, where `g` has been captured, to the
place `d`, where `h` has been captured.  It follows the form of the pattern and knows nothing of
the order in which `run` tries things.  `exists_way_of_run` says that `run` finds only such ways:
whatever a search answers, the answer lies behind a way of the pattern.

From this come the facts that hold of every match: it does not go backwards (`Way.le`), and a
pattern over an alphabet passes only over characters of the alphabet (`Way.of_mem_upTo`).
-/

namespace HeaderSurvey.Pattern

/-- The ways in which a pattern can lead from one place to another, with the captures on both
sides. -/
def Way : Pattern → Cursor → Captures → Cursor → Captures → Prop
  | literal chars, c, g, d, h => c.skipText? chars = some d ∧ h = g
  | one p, c, g, d, h => ∃ x, p x = true ∧ c.rest = x :: d.rest ∧ d.before = x :: c.before ∧ h = g
  | many p, c, g, d, h => c ≤ d ∧ (∀ x ∈ c.upTo d, p x = true) ∧ h = g
  | seq p q, c, g, d, h => ∃ e f, p.Way c g e f ∧ q.Way e f d h
  | either p q, c, g, d, h => p.Way c g d h ∨ q.Way c g d h
  | star p, c, g, d, h =>
    Relation.ReflTransGen (fun a b : MatchEnd => p.Way a.1 a.2 b.1 b.2) (c, g) (d, h)
  | lazyStar p, c, g, d, h =>
    Relation.ReflTransGen (fun a b : MatchEnd => p.Way a.1 a.2 b.1 b.2) (c, g) (d, h)
  | capture i p, c, g, d, h => ∃ f, p.Way c g d f ∧ h = (i, c, d) :: f
  | place test, c, g, d, h => test c = true ∧ d = c ∧ h = g

/-! ### What `run` finds is a way -/

/-- A greedy repetition of a class answers behind some stretch of characters of the class. -/
theorem exists_of_runMany {p : Char → Bool} {k : Cursor → Option MatchEnd} {o : MatchEnd} :
    ∀ {rest before : List Char}, runMany p k before rest = some o →
      ∃ d, (⟨before, rest⟩ : Cursor) ≤ d ∧
        (∀ x ∈ (⟨before, rest⟩ : Cursor).upTo d, p x = true) ∧ k d = some o := by
  intro rest
  induction rest with
  | nil =>
    intro before h
    exact ⟨⟨before, []⟩, le_refl _, by simp [Cursor.upTo_self], h⟩
  | cons x rest ih =>
    intro before h
    have hstay : k ⟨before, x :: rest⟩ = some o →
        ∃ d, (⟨before, x :: rest⟩ : Cursor) ≤ d ∧
          (∀ y ∈ (⟨before, x :: rest⟩ : Cursor).upTo d, p y = true) ∧ k d = some o :=
      fun hk => ⟨_, le_refl _, by simp [Cursor.upTo_self], hk⟩
    -- more is tried first, and only in vain does the repetition stay here
    rw [runMany] at h
    split_ifs at h with hx
    · rcases hmore : runMany p k (x :: before) rest with _ | o'
      · rw [hmore] at h
        exact hstay h
      · rw [hmore] at h
        obtain rfl := Option.some.inj h
        obtain ⟨d, hle, hall, hk⟩ := ih hmore
        refine ⟨d, (Cursor.le_next before x rest).trans hle, ?_, hk⟩
        rw [Cursor.upTo_cons hle]
        exact List.forall_mem_cons.mpr ⟨hx, hall⟩
    · exact hstay h

/-- A greedy repetition answers behind some number of rounds of its body. -/
theorem exists_of_runStar {p : Pattern}
    (hp : ∀ {c : Cursor} {g : Captures} {k : Cursor → Captures → Option MatchEnd} {o : MatchEnd},
      p.run c g k = some o → ∃ d h, p.Way c g d h ∧ k d h = some o) :
    ∀ {budget : List Char} {c : Cursor} {g : Captures}
      {k : Cursor → Captures → Option MatchEnd} {o : MatchEnd},
      runStar p.run budget c g k = some o → ∃ d h, (star p).Way c g d h ∧ k d h = some o := by
  intro budget
  induction budget with
  | nil =>
    intro c g k o h
    exact ⟨c, g, Relation.ReflTransGen.refl, h⟩
  | cons x budget ih =>
    intro c g k o h
    rw [runStar] at h
    rcases hmore : p.run c g fun c g => runStar p.run budget c g k with _ | o'
    · rw [hmore] at h
      exact ⟨c, g, Relation.ReflTransGen.refl, h⟩
    · rw [hmore] at h
      obtain rfl := Option.some.inj h
      obtain ⟨e, f, hway, hrun⟩ := hp hmore
      obtain ⟨d, h, hways, hk⟩ := ih hrun
      exact ⟨d, h, Relation.ReflTransGen.head (b := (e, f)) hway hways, hk⟩

/-- A lazy repetition answers behind some number of rounds of its body. -/
theorem exists_of_runLazyStar {p : Pattern}
    (hp : ∀ {c : Cursor} {g : Captures} {k : Cursor → Captures → Option MatchEnd} {o : MatchEnd},
      p.run c g k = some o → ∃ d h, p.Way c g d h ∧ k d h = some o) :
    ∀ {budget : List Char} {c : Cursor} {g : Captures}
      {k : Cursor → Captures → Option MatchEnd} {o : MatchEnd},
      runLazyStar p.run budget c g k = some o →
        ∃ d h, (lazyStar p).Way c g d h ∧ k d h = some o := by
  intro budget
  induction budget with
  | nil =>
    intro c g k o h
    exact ⟨c, g, Relation.ReflTransGen.refl, h⟩
  | cons x budget ih =>
    intro c g k o h
    rw [runLazyStar] at h
    rcases hstop : k c g with _ | o'
    · rw [hstop] at h
      obtain ⟨e, f, hway, hrun⟩ := hp h
      obtain ⟨d, h, hways, hk⟩ := ih hrun
      exact ⟨d, h, Relation.ReflTransGen.head (b := (e, f)) hway hways, hk⟩
    · rw [hstop] at h
      obtain rfl := Option.some.inj h
      exact ⟨c, g, Relation.ReflTransGen.refl, hstop⟩

/-- **Matching finds only ways of the pattern**: an answer is the continuation's answer behind one
of them. -/
theorem exists_way_of_run {p : Pattern} {c : Cursor} {g : Captures}
    {k : Cursor → Captures → Option MatchEnd} {o : MatchEnd} (h : p.run c g k = some o) :
    ∃ d f, p.Way c g d f ∧ k d f = some o := by
  induction p generalizing c g k o with
  | literal chars =>
    rw [run_literal] at h
    rcases hd : c.skipText? chars with _ | d
    · simp [hd] at h
    · rw [hd] at h
      exact ⟨d, g, ⟨hd, rfl⟩, h⟩
  | one p =>
    obtain ⟨before, rest⟩ := c
    cases rest with
    | nil => simp [run_one_nil] at h
    | cons x rest =>
      rw [run_one_cons] at h
      split_ifs at h with hx
      exact ⟨_, g, ⟨x, hx, rfl, rfl, rfl⟩, h⟩
  | many p =>
    rw [run_many] at h
    obtain ⟨d, hle, hall, hk⟩ := exists_of_runMany h
    exact ⟨d, g, ⟨hle, hall, rfl⟩, hk⟩
  | seq p q ihp ihq =>
    obtain ⟨e, f, hp, hrest⟩ := ihp h
    obtain ⟨d, f', hq, hk⟩ := ihq hrest
    exact ⟨d, f', ⟨e, f, hp, hq⟩, hk⟩
  | either p q ihp ihq =>
    -- the second part is tried only where the first has no answer
    replace h := (run_either c g k p q).symm.trans h
    rcases hfirst : p.run c g k with _ | o'
    · rw [hfirst] at h
      obtain ⟨d, f, hq, hk⟩ := ihq h
      exact ⟨d, f, Or.inr hq, hk⟩
    · rw [hfirst] at h
      obtain ⟨d, f, hp, hk⟩ := ihp hfirst
      exact ⟨d, f, Or.inl hp, hk.trans h⟩
  | star p ih => exact exists_of_runStar ih h
  | lazyStar p ih => exact exists_of_runLazyStar ih h
  | capture i p ih =>
    obtain ⟨d, f, hp, hk⟩ := ih h
    exact ⟨d, _, ⟨f, hp, rfl⟩, hk⟩
  | place test =>
    rw [run_place] at h
    split_ifs at h with ht
    exact ⟨c, g, ⟨ht, rfl, rfl⟩, h⟩

/-! ### Facts about every way -/

/-- What holds at the start of a repetition and is kept by each of its rounds holds at its end. -/
theorem Way.of_rounds {p : Pattern} {P : MatchEnd → Prop} {c d : Cursor} {g h : Captures}
    (hw : (star p).Way c g d h)
    (hround : ∀ {a b : MatchEnd}, p.Way a.1 a.2 b.1 b.2 → P a → P b) (hstart : P (c, g)) :
    P (d, h) := by
  change Relation.ReflTransGen _ (c, g) (d, h) at hw
  generalize (d, h) = b at hw ⊢
  induction hw with
  | refl => exact hstart
  | tail _ hlast hsofar => exact hround hlast hsofar

/-- A way does not lead backwards. -/
theorem Way.le {p : Pattern} {c d : Cursor} {g h : Captures} (hw : p.Way c g d h) : c ≤ d := by
  induction p generalizing c g d h with
  | literal chars => exact (Cursor.skipText?_eq_some hw.1).1
  | one p =>
    obtain ⟨x, -, hrest, hbefore, -⟩ := hw
    exact ⟨[x], hrest, hbefore⟩
  | many p => exact hw.1
  | seq p q ihp ihq =>
    obtain ⟨e, f, hp, hq⟩ := hw
    exact (ihp hp).trans (ihq hq)
  | either p q ihp ihq => exact hw.elim ihp ihq
  | star p ih | lazyStar p ih =>
    exact Way.of_rounds (P := fun e => c ≤ e.1) hw (fun hround hle => hle.trans (ih hround)) le_rfl
  | capture i p ih =>
    obtain ⟨f, hp, -⟩ := hw
    exact ih hp
  | place test => exact hw.2.1.ge

/-- Every character that the pattern can take satisfies `P`. -/
def Over (P : Char → Prop) : Pattern → Prop
  | literal chars => ∀ x ∈ chars, P x
  | one p => ∀ x, p x = true → P x
  | many p => ∀ x, p x = true → P x
  | seq p q => p.Over P ∧ q.Over P
  | either p q => p.Over P ∧ q.Over P
  | star p => p.Over P
  | lazyStar p => p.Over P
  | capture _ p => p.Over P
  | place _ => True

theorem over_lit {P : Char → Prop} {s : String} (h : ∀ x ∈ s.toList, P x) : (lit s).Over P :=
  h

theorem Over.optional {P : Char → Prop} {p : Pattern} (hp : p.Over P) : (optional p).Over P :=
  ⟨hp, by simp [Over]⟩

theorem Over.mono {P Q : Char → Prop} (h : ∀ x, P x → Q x) {p : Pattern} (hp : p.Over P) :
    p.Over Q := by
  induction p with
  | literal chars => exact fun x hx => h x (hp x hx)
  | one p | many p => exact fun x hx => h x (hp x hx)
  | seq p q ihp ihq | either p q ihp ihq => exact ⟨ihp hp.1, ihq hp.2⟩
  | star p ih | lazyStar p ih => exact ih hp
  | capture i p ih => exact ih hp
  | place test => trivial

/-- A pattern over an alphabet passes only over characters of the alphabet. -/
theorem Way.of_mem_upTo {P : Char → Prop} {p : Pattern} (hp : p.Over P) {c d : Cursor}
    {g h : Captures} (hw : p.Way c g d h) : ∀ x ∈ c.upTo d, P x := by
  induction p generalizing c g d h with
  | literal chars =>
    rw [(Cursor.skipText?_eq_some hw.1).2]
    exact hp
  | one p =>
    obtain ⟨x, hx, hrest, hbefore, -⟩ := hw
    have hup : c.upTo d = [x] := by simp [Cursor.upTo, hbefore]
    intro y hy
    rw [hup, List.mem_singleton] at hy
    rw [hy]
    exact hp x hx
  | many p => exact fun x hx => hp x (hw.2.1 x hx)
  | seq p q ihp ihq =>
    obtain ⟨e, f, hpw, hqw⟩ := hw
    intro x hx
    rw [← Cursor.upTo_append hpw.le hqw.le, List.mem_append] at hx
    exact hx.elim (ihp hp.1 hpw x) (ihq hp.2 hqw x)
  | either p q ihp ihq => exact hw.elim (ihp hp.1) (ihq hp.2)
  | star p ih | lazyStar p ih =>
    -- the order goes along, because stretches add up only between ordered places
    have hrounds : c ≤ d ∧ ∀ x ∈ c.upTo d, P x := by
      refine Way.of_rounds (P := fun e => c ≤ e.1 ∧ ∀ x ∈ c.upTo e.1, P x) hw ?_
        ⟨le_rfl, by simp [Cursor.upTo_self]⟩
      intro a b hround hsofar
      refine ⟨hsofar.1.trans hround.le, fun x hx => ?_⟩
      rw [← Cursor.upTo_append hsofar.1 hround.le, List.mem_append] at hx
      exact hx.elim (hsofar.2 x) (ih hp hround x)
    exact hrounds.2
  | capture i p ih =>
    obtain ⟨f, hpw, -⟩ := hw
    exact ih hp hpw
  | place test =>
    rw [hw.2.1, Cursor.upTo_self]
    simp

end HeaderSurvey.Pattern
