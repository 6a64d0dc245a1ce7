import HeaderSurvey.Proofs.Block.Braces
import HeaderSurvey.Proofs.Pattern.Search

/-!
# The run of a block scan

What one call of `next` does is said by `Scanner.next_cases`, and for each kind of answer by
`next_eq_ok`, `next_eq_error` and `next_eq_none`; a whole run is taken apart by
`Scanner.run_induction`.  The list `results` holds the answers of the calls one by one
(`answer_eq_results`).

`scan_run_spec` collects the laws of a run.  A scan that resumes behind the keyword reports the
successive matches of its pattern, up to the first whose brace never closes; one that resumes
behind the block reports blocks that do not overlap.  An error ends every run, and a run has no
more results than the text has bytes.
-/

namespace HeaderSurvey

/-- The list up to and including the first element that satisfies `P`. -/
def throughFirst {α : Type} (P : α → Prop) [DecidablePred P] : List α → List α
  | [] => []
  | x :: xs => if P x then [x] else x :: throughFirst P xs

instance : DecidablePred NeverCloses := fun c =>
  match h : bracesAt c with
  | .error n => .isTrue (exists_bracesAt_error_iff.mp ⟨n, h⟩)
  | .ok _ => .isFalse fun hnever => by
      obtain ⟨n, hn⟩ := exists_bracesAt_error_iff.mpr hnever
      rw [h] at hn
      exact absurd hn (by simp)

/-- A block does not end before its keyword does. -/
theorem Block.keyword_stop_le {b : Block} (h : bracesAt b.keyword.stop = .ok b.braces) :
    b.keyword.stop ≤ b.stop := by
  rcases hb : b.braces with _ | braces
  · simp [Block.stop, hb]
  · rw [hb] at h
    have hskip := Braces.le_opening h
    obtain ⟨pre, body, post, -, rfl, -⟩ := bracesAt_eq_some h
    obtain ⟨h1, h2, h3⟩ := Braces.around_le pre body post
    simp only [Block.stop, hb]
    exact hskip.trans (h1.trans (h2.trans h3))

namespace Scanner

/-- The walk after `n` calls of `next`. -/
def after : Nat → Scanner → Scanner
  | 0, s => s
  | n + 1, s => after n s.next.2

/-- What the call of `next` gives that follows `n` others. -/
def answer (s : Scanner) (n : Nat) : Option (Except UnclosedBlock Block) :=
  (s.after n).next.1

/-- The byte offsets of the keyword of a result. -/
def keywordSpan : Except UnclosedBlock Block → Span
  | .ok b => b.keyword.span
  | .error e => e.keyword

/-! ### One call -/

theorem next_of_cursor_none {s : Scanner} (h : s.cursor = none) : s.next = (none, s) := by
  rw [next, h]

theorem next_of_no_match {s : Scanner} {c : Cursor} (hc : s.cursor = some c)
    (h : ∀ d, c ≤ d → s.pattern.matchAt? d = none) :
    s.next = (none, { s with cursor := none }) := by
  rw [next, hc]
  simp only [Pattern.find?_eq_none_iff.mpr h]

theorem next_of_empty {s : Scanner} {c : Cursor} {m : Match} (hc : s.cursor = some c)
    (hm : s.pattern.IsLeftmost c m) (hempty : m.start = m.stop) :
    s.next = (none, { s with cursor := none }) := by
  have he : m.isEmpty = true := by
    rw [Match.isEmpty, hempty]
    simp
  rw [next, hc]
  simp only [Pattern.find?_eq_some_iff.mpr hm, he, ↓reduceIte]

theorem next_of_error {s : Scanner} {c : Cursor} {m : Match} {n : Nat} (hc : s.cursor = some c)
    (hm : s.pattern.IsLeftmost c m) (hlt : m.start < m.stop) (hb : bracesAt m.stop = .error n) :
    s.next = (some (.error ⟨m.span, n, s.fileId⟩), { s with cursor := none }) := by
  have he := (Match.isEmpty_eq_false_iff hm.start_le_stop).mpr hlt
  rw [next, hc]
  simp only [Pattern.find?_eq_some_iff.mpr hm, he, hb, Bool.false_eq_true, ↓reduceIte]

theorem next_of_ok {s : Scanner} {c : Cursor} {b : Block} (hc : s.cursor = some c)
    (hm : s.pattern.IsLeftmost c b.keyword) (hlt : b.keyword.start < b.keyword.stop)
    (hb : bracesAt b.keyword.stop = .ok b.braces) :
    s.next = (some (.ok b), { s with cursor := some (s.resumeAfter b) }) := by
  have he := (Match.isEmpty_eq_false_iff hm.start_le_stop).mpr hlt
  rw [next, hc]
  simp only [Pattern.find?_eq_some_iff.mpr hm, he, hb, Bool.false_eq_true, ↓reduceIte]

/-- What a search from a place can find: nothing, an empty match, a keyword with an unclosed brace,
or a keyword of a block. -/
theorem keyword_cases (s : Scanner) (c : Cursor) :
    (∀ d, c ≤ d → s.pattern.matchAt? d = none) ∨
    (∃ m, s.pattern.IsLeftmost c m ∧ m.start = m.stop) ∨
    (∃ m n, s.pattern.IsLeftmost c m ∧ m.start < m.stop ∧ bracesAt m.stop = .error n) ∨
    (∃ b : Block, s.pattern.IsLeftmost c b.keyword ∧ b.keyword.start < b.keyword.stop ∧
      bracesAt b.keyword.stop = .ok b.braces) := by
  rcases hm : s.pattern.find? c with _ | m
  · exact Or.inl (Pattern.find?_eq_none_iff.mp hm)
  · have hl := Pattern.find?_eq_some_iff.mp hm
    right
    rcases eq_or_lt_of_le hl.start_le_stop with heq | hlt
    · exact Or.inl ⟨m, hl, heq⟩
    · right
      rcases hb : bracesAt m.stop with n | braces
      · exact Or.inl ⟨m, n, hl, hlt, hb⟩
      · exact Or.inr ⟨⟨m, braces⟩, hl, hlt, hb⟩

/-- All that a call of `next` can do: it finds nothing to report, or an unclosed brace, and the walk
is over, or it reports a block, and the walk goes on. -/
theorem next_cases (s : Scanner) :
    (s.next = (none, { s with cursor := none }) ∧
      ∀ c, s.cursor = some c → (∀ d, c ≤ d → s.pattern.matchAt? d = none) ∨
        ∃ m, s.pattern.IsLeftmost c m ∧ m.start = m.stop) ∨
    (∃ c m n, s.cursor = some c ∧ s.pattern.IsLeftmost c m ∧ m.start < m.stop ∧
      bracesAt m.stop = .error n ∧
      s.next = (some (.error ⟨m.span, n, s.fileId⟩), { s with cursor := none })) ∨
    ∃ (c : Cursor) (b : Block), s.cursor = some c ∧ s.pattern.IsLeftmost c b.keyword ∧
      b.keyword.start < b.keyword.stop ∧ bracesAt b.keyword.stop = .ok b.braces ∧
      s.next = (some (.ok b), { s with cursor := some (s.resumeAfter b) }) := by
  rcases hc : s.cursor with _ | c
  · have hnext : s.next = (none, { s with cursor := none }) := by
      rw [next_of_cursor_none hc, ← hc]
    exact Or.inl ⟨hnext, nofun⟩
  rcases s.keyword_cases c with hnone | ⟨m, hm, heq⟩ | ⟨m, n, hm, hlt, hb⟩ | ⟨b, hm, hlt, hb⟩
  · refine Or.inl ⟨next_of_no_match hc hnone, ?_⟩
    rintro _ ⟨⟩
    exact Or.inl hnone
  · refine Or.inl ⟨next_of_empty hc hm heq, ?_⟩
    rintro _ ⟨⟩
    exact Or.inr ⟨m, hm, heq⟩
  · exact Or.inr (Or.inl ⟨c, m, n, rfl, hm, hlt, hb, next_of_error hc hm hlt hb⟩)
  · exact Or.inr (Or.inr ⟨c, b, rfl, hm, hlt, hb, next_of_ok hc hm hlt hb⟩)

/-- A reported block has the leftmost match as its keyword and the braces that follow it. -/
theorem next_eq_ok {s s' : Scanner} {b : Block} (h : s.next = (some (.ok b), s')) :
    ∃ c, s.cursor = some c ∧ s.pattern.IsLeftmost c b.keyword ∧
      b.keyword.start < b.keyword.stop ∧ bracesAt b.keyword.stop = .ok b.braces ∧
      s' = { s with cursor := some (s.resumeAfter b) } := by
  rcases s.next_cases with ⟨hnext, -⟩ | ⟨_, _, _, -, -, -, -, hnext⟩ |
    ⟨c, b', hc, hm, hlt, hb, hnext⟩ <;> cases hnext.symm.trans h
  exact ⟨c, hc, hm, hlt, hb, rfl⟩

/-- A reported error is that of the leftmost match, and the walk is over. -/
theorem next_eq_error {s s' : Scanner} {e : UnclosedBlock} (h : s.next = (some (.error e), s')) :
    ∃ c m n, s.cursor = some c ∧ s.pattern.IsLeftmost c m ∧ m.start < m.stop ∧
      bracesAt m.stop = .error n ∧ e = ⟨m.span, n, s.fileId⟩ ∧
      s' = { s with cursor := none } := by
  rcases s.next_cases with ⟨hnext, -⟩ | ⟨c, m, n, hc, hm, hlt, hb, hnext⟩ |
    ⟨_, _, -, -, -, -, hnext⟩ <;> cases hnext.symm.trans h
  exact ⟨c, m, n, hc, hm, hlt, hb, rfl, rfl⟩

/-- A call without an answer leaves no place to go on from. -/
theorem next_eq_none {s s' : Scanner} (h : s.next = (none, s')) :
    s' = { s with cursor := none } := by
  rcases s.next_cases with ⟨hnext, -⟩ | ⟨_, _, _, -, -, -, -, hnext⟩ |
    ⟨_, _, -, -, -, -, hnext⟩ <;> cases hnext.symm.trans h
  rfl

/-- A call without an answer has found no match, or an empty one. -/
theorem search_of_next_eq_none {s s' : Scanner} {c : Cursor} (h : s.next = (none, s'))
    (hc : s.cursor = some c) : (∀ d, c ≤ d → s.pattern.matchAt? d = none) ∨
      ∃ m, s.pattern.IsLeftmost c m ∧ m.start = m.stop := by
  rcases s.next_cases with ⟨-, hsearch⟩ | ⟨_, _, _, -, -, -, -, hnext⟩ |
    ⟨_, _, -, -, -, -, hnext⟩
  · exact hsearch c hc
  all_goals cases hnext.symm.trans h

theorem keyword_stop_le_resumeAfter (s : Scanner) {b : Block}
    (h : bracesAt b.keyword.stop = .ok b.braces) : b.keyword.stop ≤ s.resumeAfter b := by
  rw [resumeAfter]
  split
  · exact le_refl _
  · exact Block.keyword_stop_le h

/-- After a block less text is ahead. -/
theorem length_rest_resumeAfter_lt {s : Scanner} {c : Cursor} {b : Block}
    (hm : s.pattern.IsLeftmost c b.keyword) (hlt : b.keyword.start < b.keyword.stop)
    (hb : bracesAt b.keyword.stop = .ok b.braces) :
    (s.resumeAfter b).rest.length < c.rest.length :=
  Nat.lt_of_le_of_lt (Cursor.length_rest_le_of_le (s.keyword_stop_le_resumeAfter hb))
    (hm.length_rest_lt hlt)

/-- A call changes nothing but the place, which moves on in the text. -/
theorem next_frame (s : Scanner) :
    s.next.2.pattern = s.pattern ∧ s.next.2.resume = s.resume ∧ s.next.2.fileId = s.fileId ∧
      ∀ c, s.next.2.cursor = some c → ∃ d, s.cursor = some d ∧ d ≤ c := by
  rcases hnext : s.next with ⟨_ | e | b, s'⟩
  · rw [next_eq_none hnext]
    exact ⟨rfl, rfl, rfl, by simp⟩
  · obtain ⟨c, m, k, -, -, -, -, -, rfl⟩ := next_eq_error hnext
    exact ⟨rfl, rfl, rfl, by simp⟩
  · obtain ⟨c, hc, hm, hlt, hb, rfl⟩ := next_eq_ok hnext
    refine ⟨rfl, rfl, rfl, ?_⟩
    rintro d hd
    obtain rfl := Option.some.inj hd
    exact ⟨c, hc, hm.le_start.trans (hlt.le.trans (s.keyword_stop_le_resumeAfter hb))⟩

/-- However many calls are made, the pattern stays and the place stays in the text. -/
theorem after_frame (s : Scanner) (n : Nat) :
    (s.after n).pattern = s.pattern ∧
      ∀ c, (s.after n).cursor = some c → ∃ d, s.cursor = some d ∧ d ≤ c := by
  induction n generalizing s with
  | zero => exact ⟨rfl, fun c hc => ⟨c, hc, le_refl c⟩⟩
  | succ n ih =>
    obtain ⟨hp, -, -, hcursor⟩ := s.next_frame
    obtain ⟨hp', hcursor'⟩ := ih s.next.2
    refine ⟨hp'.trans hp, ?_⟩
    intro c hc
    obtain ⟨d, hd, hdc⟩ := hcursor' c hc
    obtain ⟨e, he, hed⟩ := hcursor d hd
    exact ⟨e, he, hed.trans hdc⟩

/-- **Induction over a run.**  What holds of a walk that is over or ends in an error, and of a walk
whenever it holds after its next block, holds of every walk. -/
theorem run_induction {P : Scanner → Prop} (stop : ∀ s s', s.next = (none, s') → P s)
    (fail : ∀ s e s', s.next = (some (.error e), s') → P s)
    (step : ∀ s b s', s.next = (some (.ok b), s') → P s' → P s) (s : Scanner) : P s := by
  rcases hc : s.cursor with _ | c
  · exact stop s s (next_of_cursor_none hc)
  induction hn : c.rest.length using Nat.strongRecOn generalizing s c with
  | _ n ih =>
    rcases s.keyword_cases c with hnone | ⟨m, hm, heq⟩ | ⟨m, n, hm, hlt, hb⟩ | ⟨b, hm, hlt, hb⟩
    · exact stop s _ (next_of_no_match hc hnone)
    · exact stop s _ (next_of_empty hc hm heq)
    · exact fail s _ _ (next_of_error hc hm hlt hb)
    · have hless := length_rest_resumeAfter_lt hm hlt hb
      exact step s b _ (next_of_ok hc hm hlt hb) (ih _ (hn ▸ hless) _ _ rfl rfl)

/-! ### The list of the results -/

theorem resultsWithin_of_next_none {s s' : Scanner} (h : s.next = (none, s')) (budget : List Char) :
    resultsWithin budget s = [] := by
  cases budget with
  | nil => rfl
  | cons x budget => rw [resultsWithin, h]

/-- A budget of one character for each that is ahead is enough. -/
theorem resultsWithin_eq (s : Scanner) : ∀ {budget budget' : List Char},
    (∀ c, s.cursor = some c → c.rest.length ≤ budget.length) →
    (∀ c, s.cursor = some c → c.rest.length ≤ budget'.length) →
    resultsWithin budget s = resultsWithin budget' s := by
  induction s using run_induction with
  | stop s s' hnext =>
    intro budget budget' _ _
    rw [resultsWithin_of_next_none hnext, resultsWithin_of_next_none hnext]
  | fail s e s' hnext =>
    intro budget budget' hlen hlen'
    obtain ⟨c, m, n, hc, hm, hlt, -, -, rfl⟩ := next_eq_error hnext
    have hless := hm.length_rest_lt hlt
    have hdead : ({ s with cursor := none } : Scanner).next = (none, { s with cursor := none }) :=
      next_of_cursor_none rfl
    have h1 := hlen c hc
    have h2 := hlen' c hc
    obtain ⟨x, budget, rfl⟩ := List.exists_cons_of_length_pos (show 0 < budget.length by omega)
    obtain ⟨y, budget', rfl⟩ := List.exists_cons_of_length_pos (show 0 < budget'.length by omega)
    rw [resultsWithin, resultsWithin, hnext]
    dsimp only
    rw [resultsWithin_of_next_none hdead, resultsWithin_of_next_none hdead]
  | step s b s' hnext ih =>
    intro budget budget' hlen hlen'
    obtain ⟨c, hc, hm, hlt, hb, rfl⟩ := next_eq_ok hnext
    -- the character that pays for this block lies in front of where the search goes on
    have hless := length_rest_resumeAfter_lt hm hlt hb
    have h1 := hlen c hc
    have h2 := hlen' c hc
    obtain ⟨x, budget, rfl⟩ := List.exists_cons_of_length_pos (show 0 < budget.length by omega)
    obtain ⟨y, budget', rfl⟩ := List.exists_cons_of_length_pos (show 0 < budget'.length by omega)
    rw [List.length_cons] at h1 h2
    rw [resultsWithin, resultsWithin, hnext]
    dsimp only
    congr 1
    apply ih
    · rintro d hd
      obtain rfl := Option.some.inj hd
      omega
    · rintro d hd
      obtain rfl := Option.some.inj hd
      omega

theorem resultsWithin_eq_results {s : Scanner} {budget : List Char}
    (h : ∀ c, s.cursor = some c → c.rest.length ≤ budget.length) :
    resultsWithin budget s = s.results := by
  rcases hc : s.cursor with _ | c
  · rw [results, hc]
    exact resultsWithin_of_next_none (next_of_cursor_none hc) budget
  · rw [results, hc]
    refine resultsWithin_eq s h ?_
    rintro d hd
    rw [hc] at hd
    exact Nat.le_of_eq (by rw [Option.some.inj hd])

theorem results_of_next_none {s s' : Scanner} (h : s.next = (none, s')) : s.results = [] := by
  rcases hc : s.cursor with _ | c
  · rw [results, hc]
  · rw [results, hc]
    exact resultsWithin_of_next_none h c.rest

/-- **The results of a walk are its next answer and the results of the walk that is left.** -/
theorem results_of_next_some {s s' : Scanner} {r : Except UnclosedBlock Block}
    (h : s.next = (some r, s')) : s.results = r :: s'.results := by
  have hstep : ∀ c, s.cursor = some c → c.rest ≠ [] →
      (∀ d, s'.cursor = some d → d.rest.length < c.rest.length) → s.results = r :: s'.results := by
    intro c hc hne hless
    rw [results, hc]
    dsimp only
    cases hrest : c.rest with
    | nil => exact absurd hrest hne
    | cons x rest =>
      rw [resultsWithin, h]
      dsimp only
      rw [resultsWithin_eq_results]
      intro d hd
      have := hless d hd
      rw [hrest, List.length_cons] at this
      omega
  rcases r with e | b
  · obtain ⟨c, m, n, hc, hm, hlt, -, -, rfl⟩ := next_eq_error h
    have hless := hm.length_rest_lt hlt
    refine hstep c hc ?_ (by simp)
    rintro hnil
    simp [hnil] at hless
  · obtain ⟨c, hc, hm, hlt, hb, rfl⟩ := next_eq_ok h
    have hless := length_rest_resumeAfter_lt hm hlt hb
    refine hstep c hc ?_ ?_
    · rintro hnil
      simp [hnil] at hless
    · rintro d hd
      obtain rfl := Option.some.inj hd
      exact hless

theorem results_of_cursor_none {s : Scanner} (h : s.cursor = none) : s.results = [] :=
  results_of_next_none (next_of_cursor_none h)

/-- An error is the only result of a walk that it ends. -/
theorem results_of_next_error {s s' : Scanner} {e : UnclosedBlock}
    (h : s.next = (some (.error e), s')) : s.results = [.error e] := by
  obtain ⟨c, m, n, -, -, -, -, -, rfl⟩ := next_eq_error h
  rw [results_of_next_some h, results_of_cursor_none rfl]

/-- **The results are the answers of the calls, one by one.** -/
theorem answer_eq_results (s : Scanner) (n : Nat) : s.answer n = s.results[n]? := by
  induction n generalizing s with
  | zero =>
    rw [answer, after]
    rcases hnext : s.next with ⟨_ | r, s'⟩
    · rw [results_of_next_none hnext]
      rfl
    · rw [results_of_next_some hnext]
      rfl
  | succ n ih =>
    have hshift : s.answer (n + 1) = s.next.2.answer n := rfl
    rw [hshift, ih]
    rcases hnext : s.next with ⟨_ | r, s'⟩
    · rw [results_of_next_none hnext, results_of_cursor_none (by rw [next_eq_none hnext])]
      rfl
    · rw [results_of_next_some hnext, List.getElem?_cons_succ]

/-! ### Laws of every run -/

/-- No result begins before the place where the walk stands. -/
theorem offset_le_of_mem_results {s : Scanner} {c : Cursor} (hc : s.cursor = some c) :
    ∀ r ∈ s.results, c.offset ≤ (keywordSpan r).start := by
  induction s using run_induction generalizing c with
  | stop s s' hnext => simp [results_of_next_none hnext]
  | fail s e s' hnext =>
    obtain ⟨d, m, n, hd, hm, -, -, rfl, -⟩ := next_eq_error hnext
    rw [hc] at hd
    obtain rfl := Option.some.inj hd
    intro r hr
    rw [results_of_next_error hnext, List.mem_singleton] at hr
    rw [hr]
    exact Cursor.offset_le_of_le hm.le_start
  | step s b s' hnext ih =>
    obtain ⟨d, hd, hm, hlt, hb, rfl⟩ := next_eq_ok hnext
    rw [hc] at hd
    obtain rfl := Option.some.inj hd
    intro r hr
    rw [results_of_next_some hnext, List.mem_cons] at hr
    rcases hr with rfl | hr
    · exact Cursor.offset_le_of_le hm.le_start
    · have hfar : c ≤ s.resumeAfter b :=
        hm.le_start.trans (hlt.le.trans (s.keyword_stop_le_resumeAfter hb))
      exact Nat.le_trans (Cursor.offset_le_of_le hfar) (ih rfl r hr)

/-- An error is the last result. -/
theorem error_is_last {s : Scanner} {i : Nat} {e : UnclosedBlock}
    (h : s.results[i]? = some (.error e)) : i + 1 = s.results.length := by
  induction s using run_induction generalizing i with
  | stop s s' hnext => simp [results_of_next_none hnext] at h
  | fail s e' s' hnext =>
    rw [results_of_next_error hnext] at h ⊢
    cases i with
    | zero => rfl
    | succ i => simp at h
  | step s b s' hnext ih =>
    rw [results_of_next_some hnext] at h ⊢
    cases i with
    | zero => simp at h
    | succ i =>
      rw [List.getElem?_cons_succ] at h
      rw [List.length_cons, ih h]

/-- Every result takes a character of the text ahead. -/
theorem length_results_le {s : Scanner} {c : Cursor} (hc : s.cursor = some c) :
    s.results.length ≤ c.rest.length := by
  induction s using run_induction generalizing c with
  | stop s s' hnext => simp [results_of_next_none hnext]
  | fail s e s' hnext =>
    obtain ⟨d, m, n, hd, hm, hlt, -⟩ := next_eq_error hnext
    rw [hc] at hd
    obtain rfl := Option.some.inj hd
    have hless := hm.length_rest_lt hlt
    rw [results_of_next_error hnext, List.length_singleton]
    omega
  | step s b s' hnext ih =>
    obtain ⟨d, hd, hm, hlt, hb, rfl⟩ := next_eq_ok hnext
    rw [hc] at hd
    obtain rfl := Option.some.inj hd
    have hless := length_rest_resumeAfter_lt hm hlt hb
    have := ih rfl
    rw [results_of_next_some hnext, List.length_cons]
    omega

/-- Once there was no answer, or an error, no answer follows. -/
theorem answer_eq_none_of_lt {s : Scanner} {n k : Nat} (hnk : n < k)
    (h : s.answer n = none ∨ ∃ e, s.answer n = some (.error e)) : s.answer k = none := by
  simp only [answer_eq_results] at h ⊢
  rw [List.getElem?_eq_none_iff]
  rcases h with h | ⟨e, h⟩
  · rw [List.getElem?_eq_none_iff] at h
    omega
  · have := error_is_last h
    omega

/-! ### Resuming behind the keyword -/

/-- A scan that resumes behind the keyword reports the successive matches, up to the first whose
brace never closes. -/
theorem keywords_eq_throughFirst {s : Scanner} {c : Cursor} {ms : List Match}
    (hresume : s.resume = .afterKeyword) (hc : s.cursor = some c)
    (hms : s.pattern.Successive c ms) :
    s.results.map keywordSpan = (throughFirst (NeverCloses ·.stop) ms).map Match.span := by
  induction ms generalizing s c with
  | nil =>
    have hnext : s.next = (none, { s with cursor := none }) := by
      cases hms with
      | done hnone => exact next_of_no_match hc hnone
      | empty hm heq => exact next_of_empty hc hm heq
    rw [results_of_next_none hnext]
    rfl
  | cons m ms ih =>
    obtain ⟨hm, hlt, hrest⟩ : s.pattern.IsLeftmost c m ∧ m.start < m.stop ∧
        s.pattern.Successive m.stop ms := by
      cases hms with
      | next hm hlt hrest => exact ⟨hm, hlt, hrest⟩
    rw [throughFirst]
    rcases hb : bracesAt m.stop with n | braces
    · rw [if_pos (exists_bracesAt_error_iff.mp ⟨n, hb⟩),
        results_of_next_error (next_of_error hc hm hlt hb)]
      rfl
    · -- the walk goes on where the next match is looked for
      have hcloses : ¬ NeverCloses m.stop := by
        intro hnever
        obtain ⟨n, hn⟩ := exists_bracesAt_error_iff.mpr hnever
        rw [hb] at hn
        exact absurd hn (by simp)
      have hnext := @next_of_ok s c ⟨m, braces⟩ hc hm hlt hb
      have hgo : ({ s with cursor := some (s.resumeAfter ⟨m, braces⟩) } : Scanner).cursor =
          some m.stop := by
        simp [resumeAfter, hresume]
      rw [if_neg hcloses, results_of_next_some hnext, List.map_cons, List.map_cons]
      congr 1
      exact ih hresume hgo hrest

/-! ### Resuming behind the block -/

/-- A scan that resumes behind the block reports every keyword behind the blocks before it. -/
theorem results_pairwise {s : Scanner} (hresume : s.resume = .afterBlock) :
    s.results.Pairwise fun r r' =>
      ∀ b, r = .ok b → b.stop.offset ≤ (keywordSpan r').start := by
  induction s using run_induction with
  | stop s s' hnext =>
    rw [results_of_next_none hnext]
    exact List.Pairwise.nil
  | fail s e s' hnext =>
    rw [results_of_next_error hnext]
    exact List.pairwise_singleton _ _
  | step s b s' hnext ih =>
    obtain ⟨c, -, -, -, -, rfl⟩ := next_eq_ok hnext
    rw [results_of_next_some hnext, List.pairwise_cons]
    refine ⟨?_, ih hresume⟩
    rintro r hr b' hb'
    obtain rfl := Except.ok.inj hb'
    have hgo : s.resumeAfter b = b.stop := by
      simp [resumeAfter, hresume]
    rw [← hgo]
    exact offset_le_of_mem_results rfl r hr

/-- No offset at or behind the end of a block lies in its body. -/
theorem not_contains_of_stop_le {b : Block} {body : Span} {i : Nat} (hbody : b.bodySpan? = some body)
    (hi : b.stop.offset ≤ i) : body.contains i = false := by
  rw [Block.bodySpan?, Option.map_eq_some_iff] at hbody
  obtain ⟨chars, -, rfl⟩ := hbody
  rw [Span.contains, Bool.and_eq_false_iff]
  right
  simp only [decide_eq_false_iff_not]
  omega

/-! ### The laws together -/

/-- **The laws of a full run**, for every pattern and every text.  Resuming behind the keyword, the
keywords of the results are the successive leftmost matches up to the first whose brace never
closes.  Resuming behind the block, every result begins at or behind the end of each block before
it and not inside its body.  In both ways the calls of `next` answer with the results one by one,
an error is the last of them, nothing follows an error or a missing answer, and there are at most
as many results as the text has bytes. -/
theorem scan_run_spec (p : Pattern) (fileId : Nat) (text : List Char) :
    (∃ ms, p.Successive (Cursor.atStart text) ms ∧
      (ofText p .afterKeyword fileId text).results.map keywordSpan =
        (throughFirst (NeverCloses ·.stop) ms).map Match.span) ∧
    ((ofText p .afterBlock fileId text).results.Pairwise fun r r' =>
      ∀ b, r = .ok b → b.span.stop ≤ (keywordSpan r').start ∧
        ∀ body, b.bodySpan? = some body → body.contains (keywordSpan r').start = false) ∧
    ∀ resume,
      (∀ n, (ofText p resume fileId text).answer n = (ofText p resume fileId text).results[n]?) ∧
      (∀ i e, (ofText p resume fileId text).results[i]? = some (.error e) →
        i + 1 = (ofText p resume fileId text).results.length) ∧
      (∀ n k, n < k →
        ((ofText p resume fileId text).answer n = none ∨
          ∃ e, (ofText p resume fileId text).answer n = some (.error e)) →
        (ofText p resume fileId text).answer k = none) ∧
      (ofText p resume fileId text).results.length ≤ Text.byteLength text := by
  refine ⟨?_, ?_, ?_⟩
  · exact ⟨_, Pattern.successive_matchesFrom p _,
      keywords_eq_throughFirst rfl rfl (Pattern.successive_matchesFrom p _)⟩
  · refine (results_pairwise rfl).imp ?_
    intro r r' h b hb
    exact ⟨h b hb, fun body hbody => not_contains_of_stop_le hbody (h b hb)⟩
  · intro resume
    refine ⟨answer_eq_results _, fun i e => error_is_last, fun n k => answer_eq_none_of_lt, ?_⟩
    exact Nat.le_trans (length_results_le rfl) (Text.length_le_byteLength text)

end Scanner
end HeaderSurvey
