import HeaderSurvey.Proofs.Pattern.Ways

/-!
# Leftmost and successive matches

`IsLeftmost p c m` says that `m` is the match of `p` at the first place at or after `c` where there
is one.  `find?` answers with it exactly (`find?_eq_some_iff`), and with nothing exactly if no place
at or after `c` has a match (`find?_eq_none_iff`).

`Successive p c ms` says that `ms` are the successive leftmost matches from `c` on, each found from
the end of the one before it, up to the first that holds no character.  `matchesFrom` lists them
(`successive_matchesFrom`), whatever its budget.
-/

namespace HeaderSurvey

namespace Match

theorem isEmpty_eq_false_iff {m : Match} (h : m.start ≤ m.stop) :
    m.isEmpty = false ↔ m.start < m.stop := by
  rw [Cursor.lt_iff_of_le h, isEmpty, decide_eq_false_iff_not, Nat.not_le]

end Match

namespace Pattern

/-! ### Matching at a place -/

theorem matchAt?_eq_some_iff {p : Pattern} {c : Cursor} {m : Match} :
    p.matchAt? c = some m ↔
      m.start = c ∧ p.run c [] (fun d g => some (d, g)) = some (m.stop, m.captures) := by
  rw [matchAt?]
  rcases p.run c [] fun d g => some (d, g) with _ | ⟨d, g⟩
  · simp
  · constructor
    · rintro h
      obtain rfl := Option.some.inj h
      exact ⟨rfl, rfl⟩
    · rintro ⟨rfl, h⟩
      obtain ⟨rfl, rfl⟩ := Prod.mk.inj (Option.some.inj h)
      rfl

/-- A match is a way of the pattern from its start to its end. -/
theorem way_of_matchAt? {p : Pattern} {c : Cursor} {m : Match} (h : p.matchAt? c = some m) :
    p.Way c [] m.stop m.captures := by
  obtain ⟨-, hrun⟩ := matchAt?_eq_some_iff.mp h
  obtain ⟨d, f, hway, hk⟩ := exists_way_of_run hrun
  obtain ⟨rfl, rfl⟩ := Prod.mk.inj (Option.some.inj hk)
  exact hway

theorem start_of_matchAt? {p : Pattern} {c : Cursor} {m : Match} (h : p.matchAt? c = some m) :
    m.start = c :=
  (matchAt?_eq_some_iff.mp h).1

theorem le_of_matchAt? {p : Pattern} {c : Cursor} {m : Match} (h : p.matchAt? c = some m) :
    m.start ≤ m.stop := by
  rw [start_of_matchAt? h]
  exact (way_of_matchAt? h).le

theorem matchAt?_eq_none_of_way {p : Pattern} {c : Cursor} (h : ∀ d g, ¬ p.Way c [] d g) :
    p.matchAt? c = none := by
  rcases hm : p.matchAt? c with _ | m
  · rfl
  · exact absurd (way_of_matchAt? hm) (h m.stop m.captures)

/-! ### The leftmost match -/

/-- `m` is the match at the first place at or after `c` where the pattern matches. -/
structure IsLeftmost (p : Pattern) (c : Cursor) (m : Match) : Prop where
  le_start : c ≤ m.start
  matchAt : p.matchAt? m.start = some m
  first : ∀ d, c ≤ d → d < m.start → p.matchAt? d = none

theorem IsLeftmost.start_le_stop {p : Pattern} {c : Cursor} {m : Match} (h : p.IsLeftmost c m) :
    m.start ≤ m.stop :=
  le_of_matchAt? h.matchAt

/-- There is at most one leftmost match. -/
theorem IsLeftmost.unique {p : Pattern} {c : Cursor} {m m' : Match} (h : p.IsLeftmost c m)
    (h' : p.IsLeftmost c m') : m = m' := by
  have htext : m.start.text = m'.start.text :=
    (Cursor.text_eq_of_le h.le_start).symm.trans (Cursor.text_eq_of_le h'.le_start)
  have hle : m.start ≤ m'.start := by
    refine (Cursor.lt_or_le_of_text_eq htext.symm).resolve_left fun hlt => ?_
    simpa [h'.matchAt] using h.first m'.start h'.le_start hlt
  have hge : m'.start ≤ m.start := by
    refine (Cursor.lt_or_le_of_text_eq htext).resolve_left fun hlt => ?_
    simpa [h.matchAt] using h'.first m.start h.le_start hlt
  have hsome := h.matchAt
  rw [le_antisymm hle hge, h'.matchAt] at hsome
  exact (Option.some.inj hsome).symm

/-- The places at or after a place are this place and those at or after the next one. -/
theorem eq_or_le_of_cons_le {x : Char} {before rest : List Char} {d : Cursor}
    (h : (⟨before, x :: rest⟩ : Cursor) ≤ d) :
    d = ⟨before, x :: rest⟩ ∨ (⟨x :: before, rest⟩ : Cursor) ≤ d := by
  obtain ⟨passed, hr, hb⟩ := h
  cases passed with
  | nil =>
    left
    obtain ⟨db, dr⟩ := d
    simp only [List.nil_append, List.reverse_nil] at hr hb
    rw [← hr, hb]
  | cons y passed =>
    right
    obtain ⟨rfl, hrest⟩ := List.cons.inj hr
    exact ⟨passed, hrest, by simpa using hb⟩

theorem isLeftmost_of_findFrom {p : Pattern} {m : Match} :
    ∀ {rest before : List Char}, findFrom p before rest = some m →
      p.IsLeftmost ⟨before, rest⟩ m := by
  have hhere : ∀ {c : Cursor}, p.matchAt? c = some m → p.IsLeftmost c m := by
    intro c h
    obtain rfl := start_of_matchAt? h
    exact ⟨le_refl _, h, fun d hle hlt => absurd hle hlt.not_ge⟩
  intro rest
  induction rest with
  | nil =>
    intro before h
    exact hhere h
  | cons x rest ih =>
    intro before h
    rw [findFrom] at h
    rcases hm : p.matchAt? ⟨before, x :: rest⟩ with _ | m'
    · -- nothing matches here, so the first match behind is the first of all
      rw [hm] at h
      obtain ⟨hle, hat, hfirst⟩ := ih h
      refine ⟨(Cursor.le_next before x rest).trans hle, hat, ?_⟩
      intro d hd hlt
      rcases eq_or_le_of_cons_le hd with rfl | hd
      · exact hm
      · exact hfirst d hd hlt
    · rw [hm] at h
      obtain rfl := Option.some.inj h
      exact hhere hm

theorem matchAt?_eq_none_of_findFrom {p : Pattern} :
    ∀ {rest before : List Char}, findFrom p before rest = none →
      ∀ d, (⟨before, rest⟩ : Cursor) ≤ d → p.matchAt? d = none := by
  intro rest
  induction rest with
  | nil =>
    intro before h d hd
    obtain rfl := Cursor.eq_of_le_of_length_rest hd (Nat.zero_le _)
    exact h
  | cons x rest ih =>
    intro before h d hd
    rw [findFrom] at h
    rcases hm : p.matchAt? ⟨before, x :: rest⟩ with _ | m
    · rw [hm] at h
      rcases eq_or_le_of_cons_le hd with rfl | hd
      · exact hm
      · exact ih h d hd
    · simp [hm] at h

/-- A search without an answer: no place at or after the cursor has a match. -/
theorem find?_eq_none_iff {p : Pattern} {c : Cursor} :
    p.find? c = none ↔ ∀ d, c ≤ d → p.matchAt? d = none := by
  constructor
  · exact fun h => matchAt?_eq_none_of_findFrom h
  · intro h
    rcases hm : p.find? c with _ | m
    · rfl
    · have hl := isLeftmost_of_findFrom hm
      simpa [hl.matchAt] using h m.start hl.le_start

/-- **A search answers with the leftmost match.** -/
theorem find?_eq_some_iff {p : Pattern} {c : Cursor} {m : Match} :
    p.find? c = some m ↔ p.IsLeftmost c m := by
  constructor
  · exact fun h => isLeftmost_of_findFrom h
  · intro h
    rcases hm : p.find? c with _ | m'
    · have := find?_eq_none_iff.mp hm m.start h.le_start
      simp [h.matchAt] at this
    · rw [(isLeftmost_of_findFrom hm).unique h]

/-- Where no match begins, the search goes on behind. -/
theorem find?_of_le {p : Pattern} {c d : Cursor} (hle : c ≤ d)
    (h : ∀ e, c ≤ e → e < d → p.matchAt? e = none) : p.find? c = p.find? d := by
  have hskip : ∀ e, c ≤ e → ¬ d ≤ e → p.matchAt? e = none := by
    intro e he hnot
    have htext := (Cursor.text_eq_of_le he).symm.trans (Cursor.text_eq_of_le hle)
    exact h e he ((Cursor.lt_or_le_of_text_eq htext).resolve_right hnot)
  rcases hm : p.find? d with _ | m
  · rw [find?_eq_none_iff] at hm ⊢
    intro e he
    by_cases hde : d ≤ e
    · exact hm e hde
    · exact hskip e he hde
  · rw [find?_eq_some_iff] at hm ⊢
    refine ⟨hle.trans hm.le_start, hm.matchAt, ?_⟩
    intro e he hlt
    by_cases hde : d ≤ e
    · exact hm.first e hde hlt
    · exact hskip e he hde

/-! ### Successive matches -/

/-- The successive leftmost matches from a place on, each found from the end of the one before it.
They end in front of the first match without a character. -/
inductive Successive (p : Pattern) : Cursor → List Match → Prop
  /-- Nothing matches from here on. -/
  | done {c : Cursor} : (∀ d, c ≤ d → p.matchAt? d = none) → Successive p c []
  /-- The next match holds no character. -/
  | empty {c : Cursor} {m : Match} : p.IsLeftmost c m → m.start = m.stop → Successive p c []
  /-- The next match holds some. -/
  | next {c : Cursor} {m : Match} {ms : List Match} :
      p.IsLeftmost c m → m.start < m.stop → Successive p m.stop ms → Successive p c (m :: ms)

/-- A match with a character leaves less text ahead. -/
theorem IsLeftmost.length_rest_lt {p : Pattern} {c : Cursor} {m : Match} (h : p.IsLeftmost c m)
    (hlt : m.start < m.stop) : m.stop.rest.length < c.rest.length :=
  Nat.lt_of_lt_of_le ((Cursor.lt_iff_of_le hlt.le).mp hlt)
    (Cursor.length_rest_le_of_le h.le_start)

theorem successive_matchesWithin {p : Pattern} :
    ∀ {budget : List Char} {c : Cursor}, c.rest.length ≤ budget.length →
      Successive p c (p.matchesWithin budget c) := by
  intro budget
  induction budget with
  | nil =>
    intro c hlen
    rw [matchesWithin]
    rcases hm : p.find? c with _ | m
    · exact .done (find?_eq_none_iff.mp hm)
    · -- no text is left for a match that holds a character
      have hl := find?_eq_some_iff.mp hm
      refine .empty hl ?_
      by_contra hne
      have := hl.length_rest_lt (lt_of_le_of_ne hl.start_le_stop hne)
      rw [List.length_nil] at hlen
      omega
  | cons x budget ih =>
    intro c hlen
    rw [matchesWithin]
    rcases hm : p.find? c with _ | m
    · exact .done (find?_eq_none_iff.mp hm)
    · have hl := find?_eq_some_iff.mp hm
      have hempty := Match.isEmpty_eq_false_iff hl.start_le_stop
      dsimp only
      split_ifs with he
      · refine .empty hl ?_
        by_contra hne
        rw [he] at hempty
        simpa using hempty.mpr (lt_of_le_of_ne hl.start_le_stop hne)
      · have hlt := hempty.mp (by simpa using he)
        refine .next hl hlt (ih ?_)
        have := hl.length_rest_lt hlt
        rw [List.length_cons] at hlen
        omega

/-- **`matchesFrom` lists the successive leftmost matches.** -/
theorem successive_matchesFrom (p : Pattern) (c : Cursor) : Successive p c (p.matchesFrom c) :=
  successive_matchesWithin (Nat.le_refl _)

/-- The successive matches are determined by the place where they begin. -/
theorem Successive.unique {p : Pattern} {c : Cursor} {ms ms' : List Match}
    (h : Successive p c ms) (h' : Successive p c ms') : ms = ms' := by
  induction h generalizing ms' with
  | done hnone =>
    cases h' with
    | done _ => rfl
    | empty _ _ => rfl
    | next hl _ _ =>
      have := hnone _ hl.le_start
      simp [hl.matchAt] at this
  | empty hl heq =>
    cases h' with
    | done _ => rfl
    | empty _ _ => rfl
    | next hl' hlt _ =>
      obtain rfl := hl.unique hl'
      exact absurd heq hlt.ne
  | next hl hlt _ ih =>
    cases h' with
    | done hnone =>
      have := hnone _ hl.le_start
      simp [hl.matchAt] at this
    | empty hl' heq =>
      obtain rfl := hl.unique hl'
      exact absurd heq hlt.ne
    | next hl' _ hrest =>
      obtain rfl := hl.unique hl'
      rw [ih hrest]

/-- Where no match begins, the successive matches are those behind. -/
theorem Successive.of_le {p : Pattern} {c d : Cursor} {ms : List Match} (hle : c ≤ d)
    (hnone : ∀ e, c ≤ e → e < d → p.matchAt? e = none) (h : Successive p d ms) :
    Successive p c ms := by
  have hfind := find?_of_le hle hnone
  have hleftmost : ∀ {m : Match}, p.IsLeftmost d m → p.IsLeftmost c m :=
    fun hl => find?_eq_some_iff.mp (hfind.trans (find?_eq_some_iff.mpr hl))
  cases h with
  | done hrest => exact .done (find?_eq_none_iff.mp (hfind.trans (find?_eq_none_iff.mpr hrest)))
  | empty hl heq => exact .empty (hleftmost hl) heq
  | next hl hlt hrest => exact .next (hleftmost hl) hlt hrest

/-- In front of the next place there is only the place itself. -/
theorem matchAt?_eq_none_of_lt_next {p : Pattern} {pre s : List Char} {x : Char}
    (hnone : p.matchAt? (Cursor.between pre (x :: s)) = none) :
    ∀ e, Cursor.between pre ([x] ++ s) ≤ e → e < Cursor.between (pre ++ [x]) s →
      p.matchAt? e = none := by
  intro e hle hlt
  obtain ⟨u, v, huv, hv, rfl⟩ := Cursor.exists_append_of_le_of_lt hle hlt
  rcases List.singleton_eq_append_iff.mp huv with ⟨rfl, rfl⟩ | ⟨-, rfl⟩
  · rw [List.append_nil]
    exact hnone
  · exact absurd rfl hv

theorem matchesFrom_of_le {p : Pattern} {c d : Cursor} (hle : c ≤ d)
    (hnone : ∀ e, c ≤ e → e < d → p.matchAt? e = none) : p.matchesFrom c = p.matchesFrom d :=
  (successive_matchesFrom p c).unique (Successive.of_le hle hnone (successive_matchesFrom p d))

/-- A match at a place is the first of the successive ones there. -/
theorem matchesFrom_of_matchAt? {p : Pattern} {c : Cursor} {m : Match}
    (hm : p.matchAt? c = some m) (hlt : m.start < m.stop) :
    p.matchesFrom c = m :: p.matchesFrom m.stop := by
  obtain rfl := start_of_matchAt? hm
  have hl : p.IsLeftmost m.start m :=
    ⟨le_refl _, hm, fun d hle hd => absurd hle hd.not_ge⟩
  exact (successive_matchesFrom p _).unique (.next hl hlt (successive_matchesFrom p _))

/-- Each of the successive matches is a match where it begins. -/
theorem Successive.matchAt {p : Pattern} {c : Cursor} {ms : List Match}
    (h : p.Successive c ms) : ∀ m ∈ ms, p.matchAt? m.start = some m := by
  induction h with
  | done _ => simp
  | empty _ _ => simp
  | next hl _ _ ih => exact List.forall_mem_cons.mpr ⟨hl.matchAt, ih⟩

/-! ### Putting a text in place of the matches -/

/-- The text ahead of a place with another in place of the matches there. -/
def replaceFrom (p : Pattern) (value : List Char) (c : Cursor) : List Char :=
  spliceFrom value c (p.matchesFrom c)

theorem replaceAll_eq_replaceFrom (p : Pattern) (value text : List Char) :
    p.replaceAll value text = p.replaceFrom value (Cursor.between [] text) :=
  rfl

theorem replaceFrom_nil (p : Pattern) (value pre : List Char) :
    p.replaceFrom value (Cursor.between pre []) = [] :=
  rfl

/-- What stands in front of the first match stays. -/
theorem replaceFrom_of_le {p : Pattern} (value : List Char) {c d : Cursor} (hle : c ≤ d)
    (hnone : ∀ e, c ≤ e → e < d → p.matchAt? e = none) :
    p.replaceFrom value c = c.upTo d ++ p.replaceFrom value d := by
  have hrest := successive_matchesFrom p d
  rw [replaceFrom, replaceFrom, matchesFrom_of_le hle hnone]
  revert hrest
  rcases p.matchesFrom d with _ | ⟨m, ms⟩
  · intro _
    exact Cursor.rest_eq_upTo hle
  · intro hrest
    cases hrest with
    | next hl _ _ =>
      rw [spliceFrom, spliceFrom, ← Cursor.upTo_append hle hl.le_start]
      simp only [List.append_assoc]

/-- A character at which nothing matches stays. -/
theorem replaceFrom_cons {p : Pattern} (value : List Char) {pre s : List Char} {x : Char}
    (hnone : p.matchAt? (Cursor.between pre (x :: s)) = none) :
    p.replaceFrom value (Cursor.between pre (x :: s)) =
      x :: p.replaceFrom value (Cursor.between (pre ++ [x]) s) := by
  have hgo := replaceFrom_of_le value (Cursor.between_le_between pre [x] s)
    (matchAt?_eq_none_of_lt_next hnone)
  rw [Cursor.upTo_between] at hgo
  exact hgo

/-- The other text takes the place of a match. -/
theorem replaceFrom_of_matchAt? {p : Pattern} (value : List Char) {c : Cursor} {m : Match}
    (hm : p.matchAt? c = some m) (hlt : m.start < m.stop) :
    p.replaceFrom value c = value ++ p.replaceFrom value m.stop := by
  obtain rfl := start_of_matchAt? hm
  rw [replaceFrom, matchesFrom_of_matchAt? hm hlt, spliceFrom, Cursor.upTo_self, List.nil_append]
  rfl

end Pattern
end HeaderSurvey
