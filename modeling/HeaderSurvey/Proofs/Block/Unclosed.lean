import HeaderSurvey.Proofs.Block.Nested

/-!
# Braces that nothing closes

An opening brace has a partner if a balanced text and a closing brace follow it (`HasPartner`), and
`unclosed` counts the opening braces of a text that have none.  The depth that a search for a
closing brace ends with is that number (`bracesAt_eq_error_iff`), and a text in which every opening
brace has a partner lets no search fail.

* `unclosed_add_count`: unclosed opening braces and closed ones balance each other.
* `Pattern.Visits` lists the matches that a scan meets one by one, and `Scanner.exists_visits` says
  that a scan fails at the first of them whose brace is never closed, and otherwise not at all.
-/

namespace HeaderSurvey

/-! ### Partners -/

/-- An opening brace in front of the text has a partner in it. -/
def HasPartner (rest : List Char) : Prop :=
  ∃ body post, rest = body ++ '}' :: post ∧ Balanced body

/-- A text holds no partner exactly if no beginning of it closes more braces than it opens. -/
theorem not_hasPartner_iff {rest : List Char} : ¬ HasPartner rest ↔ Within 0 rest := by
  constructor
  · intro hnot
    rcases exists_close_or_within 0 rest with ⟨s, post, rfl, hw, hcount⟩ | hw
    · exact absurd ⟨s, post, rfl, hw, by omega⟩ hnot
    · exact hw
  · rintro hw ⟨body, post, rfl, hbody⟩
    have hprefix : body ++ ['}'] <+: body ++ '}' :: post :=
      ⟨post, by simp⟩
    have hle := hw _ hprefix
    have hcount := hbody.2
    simp only [List.count_append, List.count_singleton, beq_self_eq_true, ↓reduceIte,
      show ('}' == '{') = false by decide, Bool.false_eq_true] at hle
    omega

instance : DecidablePred HasPartner := fun rest =>
  match h : closingFrom [] 0 rest with
  | .ok _ => .isTrue (by
      obtain ⟨s, post, rfl, hw, hcount, -⟩ := closingFrom_eq_ok_iff.mp h
      exact ⟨s, post, rfl, hw, by omega⟩)
  | .error _ => .isFalse (not_hasPartner_iff.mpr (closingFrom_eq_error_iff.mp h).1)

theorem neverCloses_iff {c : Cursor} :
    NeverCloses c ↔
      ∃ rest, (c.skipWhile isAsciiBlank).rest = '{' :: rest ∧ ¬ HasPartner rest := by
  simp only [NeverCloses, not_hasPartner_iff]

/-! ### Counting -/

/-- How many opening braces of the text have no partner behind them. -/
def unclosed : List Char → Nat
  | [] => 0
  | c :: rest => (if c = '{' ∧ ¬ HasPartner rest then 1 else 0) + unclosed rest

/-- How many closing braces of the text have no partner in front of them. -/
def unopened : List Char → Nat
  | [] => 0
  | c :: rest =>
    if c = '{' then unopened rest - 1 else if c = '}' then unopened rest + 1 else unopened rest

theorem within_iff_unopened_le {depth : Nat} {s : List Char} :
    Within depth s ↔ unopened s ≤ depth := by
  induction s generalizing depth with
  | nil => exact iff_of_true (within_nil depth) (Nat.zero_le depth)
  | cons c s ih =>
    rw [unopened]
    by_cases ho : c = '{'
    · subst ho
      rw [if_pos rfl, within_open, ih]
      omega
    by_cases hc : c = '}'
    · subst hc
      rw [if_neg (by decide), if_pos rfl]
      cases depth with
      | zero => exact iff_of_false not_within_close (by omega)
      | succ depth =>
        rw [within_close, ih]
        omega
    · rw [if_neg ho, if_neg hc, within_cons_of_ne ho hc, ih]

theorem hasPartner_iff_unopened_pos {rest : List Char} : HasPartner rest ↔ 0 < unopened rest := by
  rw [← not_iff_not, not_hasPartner_iff, within_iff_unopened_le]
  omega

/-- What the opening braces of a text lack in partners, beside the closing ones, is what the closing
ones lack, beside the opening ones. -/
theorem unclosed_add_count (s : List Char) :
    unclosed s + s.count '}' = s.count '{' + unopened s := by
  induction s with
  | nil => rfl
  | cons c s ih =>
    rw [unclosed, unopened]
    by_cases ho : c = '{'
    · subst ho
      have hpartner := @hasPartner_iff_unopened_pos s
      rw [(count_open s).1, (count_open s).2, if_pos rfl]
      -- a partner uses up one of the closing braces behind
      by_cases h : HasPartner s
      · rw [if_neg (by simp [h])]
        have := hpartner.mp h
        omega
      · rw [if_pos ⟨rfl, h⟩]
        have : ¬ 0 < unopened s := fun hpos => h (hpartner.mpr hpos)
        omega
    by_cases hc : c = '}'
    · subst hc
      rw [(count_close s).1, (count_close s).2, if_neg (by simp), if_neg (by decide), if_pos rfl]
      omega
    · rw [List.count_cons_of_ne hc, List.count_cons_of_ne ho, if_neg (by simp [ho]), if_neg ho,
        if_neg hc]
      omega

/-- **The depth of an error is the number of braces that are never closed**, counted from the brace
of the keyword to the end of the text. -/
theorem bracesAt_eq_error_iff {c : Cursor} {n : Nat} :
    bracesAt c = .error n ↔
      ∃ rest, (c.skipWhile isAsciiBlank).rest = '{' :: rest ∧ ¬ HasPartner rest ∧
        n = unclosed ('{' :: rest) := by
  have hcount : ∀ {rest}, ¬ HasPartner rest →
      unclosed ('{' :: rest) = rest.count '{' - rest.count '}' + 1 := by
    intro rest hnot
    have hw := not_hasPartner_iff.mp hnot
    have htotal := unclosed_add_count rest
    have hzero := within_iff_unopened_le.mp hw
    have hle := hw rest (List.prefix_refl rest)
    rw [unclosed, if_pos ⟨rfl, hnot⟩]
    omega
  constructor
  · intro h
    obtain ⟨rest, hopen, hw⟩ := exists_bracesAt_error_iff.mp ⟨n, h⟩
    have hnot := not_hasPartner_iff.mpr hw
    rw [bracesAt_of_within hopen hw, ← hcount hnot] at h
    exact ⟨rest, hopen, hnot, (Except.error.inj h).symm⟩
  · rintro ⟨rest, hopen, hnot, rfl⟩
    rw [bracesAt_of_within hopen (not_hasPartner_iff.mp hnot), hcount hnot]

/-- The braces of `{{}{` but the last pair are never closed. -/
example : unclosed "\x7b\x7b\x7d\x7b".toList = 2 := by decide

/-! ### The matches that a scan meets -/

/-- The block whose keyword ends at one place ends at another: at the same one if no brace opens
behind blanks, and otherwise behind the partner of that brace. -/
inductive BlockEnds : Cursor → Cursor → Prop
  | bodyless {c : Cursor} :
      (∀ rest, (c.skipWhile isAsciiBlank).rest ≠ '{' :: rest) → BlockEnds c c
  | braced {c : Cursor} {pre body post : List Char} : Balanced body →
      c.skipWhile isAsciiBlank = Cursor.between pre ('{' :: (body ++ '}' :: post)) →
      BlockEnds c (Cursor.between (pre ++ ['{'] ++ body ++ ['}']) post)

theorem blockEnds_stop {b : Block} (h : bracesAt b.keyword.stop = .ok b.braces) :
    BlockEnds b.keyword.stop b.stop := by
  rcases hb : b.braces with _ | braces
  · rw [hb] at h
    have hstop : b.stop = b.keyword.stop := by rw [Block.stop, hb]
    rw [hstop]
    exact .bodyless (bracesAt_eq_none_iff.mp h)
  · rw [hb] at h
    obtain ⟨pre, body, post, hbody, rfl, hopen⟩ := bracesAt_eq_some h
    rw [Block.stop_of_around hb]
    exact .braced hbody hopen

theorem BlockEnds.text_eq {c d : Cursor} (h : BlockEnds c d) : d.text = c.text := by
  cases h with
  | bodyless _ => rfl
  | braced _ hopen =>
    rw [Cursor.text_eq_of_le (Cursor.le_skipWhile isAsciiBlank c), hopen]
    simp

/-- A block that ends has no unclosed brace. -/
theorem BlockEnds.not_neverCloses {c d : Cursor} (h : BlockEnds c d) : ¬ NeverCloses c := by
  rw [neverCloses_iff]
  rintro ⟨rest, hrest, hnot⟩
  cases h with
  | bodyless hne => exact hne rest hrest
  | @braced _ body post hbody hopen =>
    rw [hopen, Cursor.rest_between] at hrest
    obtain ⟨-, rfl⟩ := List.cons.inj hrest
    exact hnot ⟨body, post, rfl, hbody⟩

/-- Of the ends of a keyword and of its block, the one behind which the search goes on. -/
def Resume.choose (resume : Resume) (keyword block : Cursor) : Cursor :=
  match resume with
  | .afterKeyword => keyword
  | .afterBlock => block

namespace Pattern

/-- The matches that a scan meets from a place on: each is the leftmost one from where the search
goes on after the block before it.  They end in front of a match without a character, and with one
whose brace is never closed. -/
inductive Visits (p : Pattern) (resume : Resume) : Cursor → List Match → Prop
  /-- Nothing matches from here on. -/
  | done {c : Cursor} : (∀ d, c ≤ d → p.matchAt? d = none) → Visits p resume c []
  /-- The next match holds no character. -/
  | empty {c : Cursor} {m : Match} : p.IsLeftmost c m → m.start = m.stop → Visits p resume c []
  /-- The brace of the next match is never closed. -/
  | unclosed {c : Cursor} {m : Match} :
      p.IsLeftmost c m → m.start < m.stop → NeverCloses m.stop → Visits p resume c [m]
  /-- The next match introduces a block, and the search goes on. -/
  | block {c d : Cursor} {m : Match} {ms : List Match} :
      p.IsLeftmost c m → m.start < m.stop → BlockEnds m.stop d →
        Visits p resume (resume.choose m.stop d) ms → Visits p resume c (m :: ms)

/-- A match that a scan meets holds a character and lies in its text. -/
theorem Visits.of_mem {p : Pattern} {resume : Resume} {c : Cursor} {ms : List Match}
    (h : p.Visits resume c ms) : ∀ m ∈ ms, m.start < m.stop ∧ m.start.text = c.text := by
  induction h with
  | done _ => simp
  | empty _ _ => simp
  | unclosed hm hlt _ =>
    rw [List.forall_mem_singleton]
    exact ⟨hlt, (Cursor.text_eq_of_le hm.le_start).symm⟩
  | @block c d m ms hm hlt hd _ ih =>
    have hstart := (Cursor.text_eq_of_le hm.le_start).symm
    have hstop := (Cursor.text_eq_of_le hlt.le).symm.trans hstart
    have hgo : (resume.choose m.stop d).text = c.text := by
      cases resume with
      | afterKeyword => exact hstop
      | afterBlock => exact hd.text_eq.trans hstop
    rw [List.forall_mem_cons]
    refine ⟨⟨hlt, hstart⟩, ?_⟩
    intro k hk
    exact ⟨(ih k hk).1, (ih k hk).2.trans hgo⟩

/-- A scan that resumes behind the keyword meets the successive matches up to the first whose brace
is never closed. -/
theorem Visits.exists_successive {p : Pattern} {c : Cursor} {ms : List Match}
    (h : p.Visits .afterKeyword c ms) :
    ∃ ms', p.Successive c ms' ∧ ms = throughFirst (NeverCloses ·.stop) ms' := by
  induction h with
  | done hnone => exact ⟨[], .done hnone, rfl⟩
  | empty hm heq => exact ⟨[], .empty hm heq, rfl⟩
  | @unclosed c m hm hlt hnever =>
    refine ⟨_, .next hm hlt (successive_matchesFrom p m.stop), ?_⟩
    rw [throughFirst, if_pos hnever]
  | block hm hlt hd _ ih =>
    obtain ⟨ms', hms', rfl⟩ := ih
    refine ⟨_, .next hm hlt hms', ?_⟩
    rw [throughFirst, if_neg hd.not_neverCloses]

end Pattern

theorem find?_throughFirst {α : Type} {P : α → Prop} [DecidablePred P] (xs : List α) :
    (throughFirst P xs).find? (P ·) = xs.find? (P ·) := by
  induction xs with
  | nil => rfl
  | cons x xs ih =>
    rw [throughFirst]
    split_ifs with hx
    · simp [hx]
    · simp [hx, ih]

namespace Scanner

theorem blocks_of_next_none {s s' : Scanner} (h : s.next = (none, s')) : s.blocks = .ok [] := by
  rw [blocks, results_of_next_none h]
  rfl

theorem blocks_of_next_error {s s' : Scanner} {e : UnclosedBlock}
    (h : s.next = (some (.error e), s')) : s.blocks = .error e := by
  rw [blocks, results_of_next_error h]
  rfl

/-- Behind a block a walk fails where the walk that is left fails. -/
theorem blocks_eq_error_iff_of_next_ok {s s' : Scanner} {b : Block} {e : UnclosedBlock}
    (h : s.next = (some (.ok b), s')) : s.blocks = .error e ↔ s'.blocks = .error e := by
  rw [blocks, results_of_next_some h, collect, ← blocks]
  rcases s'.blocks with e' | bs
  · rfl
  · simp

/-- **A scan fails exactly at the first of the matches it meets whose brace is never closed.** -/
theorem exists_visits {s : Scanner} {c : Cursor} (hc : s.cursor = some c) :
    ∃ ms, s.pattern.Visits s.resume c ms ∧ ∀ e, s.blocks = .error e ↔
      ∃ m n, ms.find? (NeverCloses ·.stop) = some m ∧ bracesAt m.stop = .error n ∧
        e = ⟨m.span, n, s.fileId⟩ := by
  induction s using run_induction generalizing c with
  | stop s s' hnext =>
    refine ⟨[], ?_, by simp [blocks_of_next_none hnext]⟩
    rcases search_of_next_eq_none hnext hc with hnone | ⟨m, hm, heq⟩
    · exact .done hnone
    · exact .empty hm heq
  | fail s e s' hnext =>
    obtain ⟨d, m, n, hd, hm, hlt, hb, rfl, -⟩ := next_eq_error hnext
    rw [hc] at hd
    obtain rfl := Option.some.inj hd
    have hnever := exists_bracesAt_error_iff.mp ⟨n, hb⟩
    refine ⟨[m], .unclosed hm hlt hnever, ?_⟩
    intro e
    rw [blocks_of_next_error hnext, List.find?_singleton, if_pos (decide_eq_true hnever)]
    constructor
    · intro heq
      exact ⟨m, n, rfl, hb, (Except.error.inj heq).symm⟩
    · rintro ⟨m', n', heq, hb', rfl⟩
      obtain rfl := Option.some.inj heq
      rw [hb] at hb'
      rw [Except.error.inj hb']
  | step s b s' hnext ih =>
    obtain ⟨d, hd, hm, hlt, hb, rfl⟩ := next_eq_ok hnext
    rw [hc] at hd
    obtain rfl := Option.some.inj hd
    obtain ⟨ms, hms, herror⟩ := ih rfl
    have hend := blockEnds_stop hb
    refine ⟨b.keyword :: ms, .block hm hlt hend hms, ?_⟩
    intro e
    rw [blocks_eq_error_iff_of_next_ok hnext, herror e,
      List.find?_cons_of_neg (by simpa using hend.not_neverCloses)]

end Scanner
end HeaderSurvey
