import HeaderSurvey.Proofs.Pattern.Frame
import HeaderSurvey.Proofs.Pattern.Preferred
import HeaderSurvey.Proofs.Pattern.Search

/-!
# Where there is a way, a match is found

`exists_way_of_run` says that matching finds only ways of the pattern.  This is the other half: if
what follows succeeds behind some way, matching has an answer, perhaps behind a way that it prefers
(`exists_run_of_way`).  So a pattern matches at a place exactly if it has a way there
(`exists_matchAt?_iff`).

A budget of one round for each character ahead is enough only where every round takes a character.
The patterns of which this holds are those with `roundsAdvance`.
-/

namespace HeaderSurvey.Pattern

/-- Whether every repetition in the pattern takes a character in each round. -/
def roundsAdvance : Pattern → Bool
  | literal _ => true
  | one _ => true
  | many _ => true
  | seq p q => p.roundsAdvance && q.roundsAdvance
  | either p q => p.roundsAdvance && q.roundsAdvance
  | star p => p.advances && p.roundsAdvance
  | lazyStar p => p.advances && p.roundsAdvance
  | capture _ p => p.roundsAdvance
  | place _ => true

/-! ### Repetitions -/

/-- A greedy repetition of a class answers if what follows succeeds behind some stretch of the
class. -/
theorem exists_runMany_of_le {p : Char → Bool} {k : Cursor → Option MatchEnd} {o : MatchEnd}
    {c d : Cursor} (hle : c ≤ d) (hall : ∀ x ∈ c.upTo d, p x = true) (hk : k d = some o) :
    ∃ o, runMany p k c.before c.rest = some o := by
  obtain ⟨pre, s, post, rfl, rfl⟩ := Cursor.exists_between_of_le hle
  rw [Cursor.upTo_between] at hall
  have hend : ∃ o, runMany p k (pre ++ s).reverse post = some o := by
    rw [Cursor.between] at hk
    cases post with
    | nil => exact ⟨o, hk⟩
    | cons x rest =>
      rw [runMany, hk]
      split_ifs
      · split
        · next o' _ => exact ⟨o', rfl⟩
        · exact ⟨o, rfl⟩
      · exact ⟨o, rfl⟩
  obtain ⟨o', ho'⟩ := hend
  exact ⟨o', runMany_append hall ho'⟩

/-- A greedy repetition of a class answers behind the longest stretch behind which what follows
succeeds. -/
theorem exists_longest_of_runMany {p : Char → Bool} {k : Cursor → Option MatchEnd} {o : MatchEnd} :
    ∀ {rest before : List Char}, runMany p k before rest = some o →
      ∃ d, (⟨before, rest⟩ : Cursor) ≤ d ∧ (∀ x ∈ (⟨before, rest⟩ : Cursor).upTo d, p x = true) ∧
        k d = some o ∧ ∀ f, d < f → (∀ x ∈ d.upTo f, p x = true) → k f = none := by
  intro rest
  induction rest with
  | nil =>
    intro before h
    refine ⟨⟨before, []⟩, le_refl _, by simp [Cursor.upTo_self], h, fun f hlt _ => ?_⟩
    exact absurd (Cursor.eq_of_le_of_length_rest hlt.le (Nat.zero_le _)) hlt.ne
  | cons x rest ih =>
    intro before h
    have hnext : ∀ {f : Cursor}, (⟨before, x :: rest⟩ : Cursor) < f →
        (⟨x :: before, rest⟩ : Cursor) ≤ f :=
      fun hlt => (eq_or_le_of_cons_le hlt.le).resolve_left fun heq => hlt.ne heq.symm
    rw [runMany] at h
    split_ifs at h with hx
    · rcases hmore : runMany p k (x :: before) rest with _ | o'
      · -- further on nothing succeeds
        rw [hmore] at h
        refine ⟨_, le_refl _, by simp [Cursor.upTo_self], h, fun f hlt hall => ?_⟩
        rw [Cursor.upTo_cons (hnext hlt)] at hall
        rw [Option.eq_none_iff_forall_ne_some]
        intro o hk
        obtain ⟨o', ho'⟩ := exists_runMany_of_le (hnext hlt) (List.forall_mem_cons.mp hall).2 hk
        rw [hmore] at ho'
        exact absurd ho' (by simp)
      · rw [hmore] at h
        obtain rfl := Option.some.inj h
        obtain ⟨d, hle, hall, hk, hlongest⟩ := ih hmore
        refine ⟨d, (Cursor.le_next before x rest).trans hle, ?_, hk, hlongest⟩
        rw [Cursor.upTo_cons hle]
        exact List.forall_mem_cons.mpr ⟨hx, hall⟩
    · refine ⟨_, le_refl _, by simp [Cursor.upTo_self], h, fun f hlt hall => ?_⟩
      rw [Cursor.upTo_cons (hnext hlt)] at hall
      exact absurd (List.forall_mem_cons.mp hall).1 hx

/-- A repetition of any kind answers if what follows succeeds behind some rounds of its body: it
only has to answer where what follows does, and where its body does in front of another round. -/
theorem exists_of_rounds {p : Pattern}
    (hp : ∀ {c : Cursor} {g : Captures} {k : Cursor → Captures → Option MatchEnd} {d : Cursor}
      {h : Captures} {o : MatchEnd}, p.Way c g d h → k d h = some o → ∃ o, p.run c g k = some o)
    (hadv : p.advances = true) {k : Cursor → Captures → Option MatchEnd}
    (rounds : List Char → Cursor → Captures → Option MatchEnd)
    (hstop : ∀ {budget c g o}, k c g = some o → ∃ o, rounds budget c g = some o)
    (hmore : ∀ {x budget c g o}, p.run c g (rounds budget) = some o →
      ∃ o, rounds (x :: budget) c g = some o)
    {u v : MatchEnd}
    (hways : Relation.ReflTransGen (fun a b : MatchEnd => p.Way a.1 a.2 b.1 b.2) u v)
    {o : MatchEnd} (hk : k v.1 v.2 = some o) :
    ∀ {budget : List Char}, u.1.rest.length ≤ budget.length →
      ∃ o, rounds budget u.1 u.2 = some o := by
  induction hways using Relation.ReflTransGen.head_induction_on with
  | refl =>
    intro budget _
    exact hstop hk
  | @head a b hway _ ih =>
    intro budget hlen
    -- the character of this round pays for it
    have hless := (Cursor.lt_iff_of_le hway.le).mp (hway.lt hadv)
    obtain ⟨x, budget, rfl⟩ := List.exists_cons_of_length_pos (show 0 < budget.length by omega)
    rw [List.length_cons] at hlen
    obtain ⟨o₁, ho₁⟩ := ih (show b.1.rest.length ≤ budget.length by omega)
    obtain ⟨o₂, ho₂⟩ := hp hway ho₁
    exact hmore ho₂

theorem exists_runStar_of_some (body : Matcher) (budget : List Char) {c : Cursor} {g : Captures}
    {k : Cursor → Captures → Option MatchEnd} {o : MatchEnd} (hk : k c g = some o) :
    ∃ o, runStar body budget c g k = some o := by
  cases budget with
  | nil => exact ⟨o, hk⟩
  | cons x budget =>
    rw [runStar, hk]
    split
    · next o' _ => exact ⟨o', rfl⟩
    · exact ⟨o, rfl⟩

theorem exists_runLazyStar_of_round {body : Matcher} {x : Char} {budget : List Char} {c : Cursor}
    {g : Captures} {k : Cursor → Captures → Option MatchEnd} {o : MatchEnd}
    (h : (body c g fun c g => runLazyStar body budget c g k) = some o) :
    ∃ o, runLazyStar body (x :: budget) c g k = some o := by
  rw [runLazyStar, h]
  split
  · next o' _ => exact ⟨o', rfl⟩
  · exact ⟨o, rfl⟩

/-! ### All patterns -/

/-- **Matching finds an answer wherever there is one**: if the continuation succeeds behind some way
of the pattern, it is not tried in vain. -/
theorem exists_run_of_way {p : Pattern} (hp : p.roundsAdvance = true) {c d : Cursor}
    {g h : Captures} {k : Cursor → Captures → Option MatchEnd} {o : MatchEnd}
    (hw : p.Way c g d h) (hk : k d h = some o) : ∃ o, p.run c g k = some o := by
  induction p generalizing c g d h k o with
  | literal chars =>
    obtain ⟨hskip, rfl⟩ := hw
    refine ⟨o, ?_⟩
    rw [run_literal, hskip]
    exact hk
  | one p =>
    obtain ⟨x, hx, hrest, hbefore, rfl⟩ := hw
    obtain ⟨before, rest⟩ := c
    obtain ⟨before', rest'⟩ := d
    obtain rfl : rest = x :: rest' := hrest
    obtain rfl : before' = x :: before := hbefore
    exact ⟨o, by rw [run_one_cons, if_pos hx, hk]⟩
  | many p =>
    obtain ⟨hle, hall, rfl⟩ := hw
    exact exists_runMany_of_le (k := fun c => k c h) hle hall hk
  | seq p q ihp ihq =>
    obtain ⟨hp, hq⟩ := Bool.and_eq_true_iff.mp hp
    obtain ⟨e, f, hpw, hqw⟩ := hw
    obtain ⟨o', ho'⟩ := ihq hq hqw hk
    exact ihp (k := fun c g => q.run c g k) hp hpw ho'
  | either p q ihp ihq =>
    obtain ⟨hp, hq⟩ := Bool.and_eq_true_iff.mp hp
    change ∃ o, (p <|> q).run c g k = some o
    rw [run_either]
    rcases hfirst : p.run c g k with _ | o'
    · -- the first alternative has no answer, so the way is one of the second
      have hqw : q.Way c g d h := by
        refine hw.resolve_left fun hpw => ?_
        obtain ⟨o', ho'⟩ := ihp hp hpw hk
        rw [hfirst] at ho'
        exact absurd ho' (by simp)
      exact ihq hq hqw hk
    · exact ⟨o', rfl⟩
  | star p ih =>
    obtain ⟨hadv, hp⟩ := Bool.and_eq_true_iff.mp hp
    have hmore : ∀ {x budget c g o}, (p.run c g fun c g => runStar p.run budget c g k) = some o →
        ∃ o, runStar p.run (x :: budget) c g k = some o :=
      fun {_ _ _ _ o} ho => ⟨o, by rw [runStar, ho]⟩
    exact exists_of_rounds (ih hp) hadv (fun budget c g => runStar p.run budget c g k)
      (exists_runStar_of_some p.run _) hmore hw hk (Nat.le_refl _)
  | lazyStar p ih =>
    obtain ⟨hadv, hp⟩ := Bool.and_eq_true_iff.mp hp
    have hstop : ∀ {budget c g o}, k c g = some o →
        ∃ o, runLazyStar p.run budget c g k = some o := by
      intro budget c g o ho
      cases budget with
      | nil => exact ⟨o, ho⟩
      | cons x budget => exact ⟨o, by rw [runLazyStar, ho]⟩
    exact exists_of_rounds (ih hp) hadv (fun budget c g => runLazyStar p.run budget c g k)
      hstop exists_runLazyStar_of_round hw hk (Nat.le_refl _)
  | capture i p ih =>
    obtain ⟨f, hpw, rfl⟩ := hw
    exact ih (k := fun d g => k d ((i, c, d) :: g)) hp hpw hk
  | place test =>
    obtain ⟨htest, rfl, rfl⟩ := hw
    exact ⟨o, by rw [run_place, if_pos htest, hk]⟩

/-- **A pattern matches at a place exactly if it has a way there.** -/
theorem exists_matchAt?_iff {p : Pattern} (hp : p.roundsAdvance = true) {c : Cursor} :
    (∃ m, p.matchAt? c = some m) ↔ ∃ d g, p.Way c [] d g := by
  constructor
  · rintro ⟨m, hm⟩
    exact ⟨m.stop, m.captures, way_of_matchAt? hm⟩
  · rintro ⟨d, g, hw⟩
    obtain ⟨⟨e, f⟩, ho⟩ := exists_run_of_way hp hw (k := fun d g => some (d, g)) rfl
    exact ⟨⟨c, e, f⟩, matchAt?_of_run ho⟩

end HeaderSurvey.Pattern
