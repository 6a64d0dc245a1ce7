import HeaderSurvey.Proofs.Block.Scan

/-!
# Blocks are nested or apart

Braces that match each other do not overlap: of two blocks of one text the second to open either
opens behind the end of the first or ends inside it (`Braces.nested_or_apart`).  Nothing is assumed
about the text around them, so braces without a partner may stand anywhere else.

* `Block.IsReported` says what every block of a walk is: a keyword that the pattern matches, and
  the braces behind it (`Scanner.isReported_of_mem_results`).
* `Scanner.keyword_pairwise`: a walk that resumes behind the keyword reports its keywords one behind
  the other.
-/

namespace HeaderSurvey

/-! ### Matching braces do not overlap -/

/-- A balanced text that goes on with an opening brace behind `u` holds the partner of this brace,
however far the text between the two extends. -/
theorem not_prefix_of_balanced {u w body' : List Char} (hbody : Balanced (u ++ '{' :: w))
    (hbody' : Within 0 body') : ¬ w <+: body' := by
  intro hw
  have hu := hbody.1 u (List.prefix_append u _)
  have hle := hbody' w hw
  have htotal := hbody.2
  rw [List.count_append, List.count_append, (count_open w).1, (count_open w).2] at htotal
  omega

/-- Behind an opening brace stand a balanced text and its partner; so do they behind a second one.
Then the second opens behind the partner of the first, or its own partner is in front of that. -/
theorem append_nested_or_apart {u body body' post post' : List Char} (hbody : Balanced body)
    (hbody' : Balanced body')
    (h : body ++ '}' :: post = u ++ '{' :: (body' ++ '}' :: post')) :
    (∃ v, u = body ++ '}' :: v) ∨ ∃ w, body = u ++ '{' :: (body' ++ '}' :: w) := by
  rcases List.append_eq_append_iff.mp h with ⟨v, rfl, hv⟩ | ⟨v, rfl, hv⟩
  · cases v with
    | nil => simp at hv
    | cons x v =>
      obtain ⟨rfl, -⟩ := List.cons.inj hv
      exact Or.inl ⟨v, rfl⟩
  · cases v with
    | nil => simp at hv
    | cons x w =>
      obtain ⟨rfl, hw⟩ := List.cons.inj hv
      right
      -- the second body is shorter than what is left of the first one behind the second brace
      rcases List.append_eq_append_iff.mp hw with ⟨t, rfl, ht⟩ | ⟨t, rfl, -⟩
      · cases t with
        | nil =>
          rw [List.append_nil] at hbody
          exact absurd (List.prefix_refl body') (not_prefix_of_balanced hbody hbody'.1)
        | cons y t =>
          obtain ⟨rfl, -⟩ := List.cons.inj ht
          exact ⟨t, rfl⟩
      · exact absurd (List.prefix_append w t) (not_prefix_of_balanced hbody hbody'.1)

/-- **Of two pairs of matching braces the second to open lies behind the first or inside it.** -/
theorem Braces.nested_or_apart {c c' : Cursor} {b b' : Braces} (hb : bracesAt c = .ok (some b))
    (hb' : bracesAt c' = .ok (some b')) (hlt : b.opening < b'.opening) :
    b.closing < b'.opening ∨ b'.closing < b.closing := by
  obtain ⟨pre, body, post, hbody, rfl, -⟩ := bracesAt_eq_some hb
  obtain ⟨pre', body', post', hbody', rfl, -⟩ := bracesAt_eq_some hb'
  obtain ⟨s, hrest, hbefore⟩ := hlt.le
  simp only [around, Cursor.rest_between, Cursor.before_between] at hrest hbefore
  have hpre : pre' = pre ++ s := by
    have := congrArg List.reverse hbefore
    rwa [List.reverse_reverse, List.reverse_append, List.reverse_reverse, List.reverse_reverse]
      at this
  cases s with
  | nil =>
    -- the two would open at the same place
    rw [List.append_nil] at hpre
    rw [hpre] at hlt
    simp only [List.nil_append] at hrest
    simp [around, hrest] at hlt
  | cons x u =>
    obtain ⟨rfl, hinside⟩ := List.cons.inj hrest
    subst hpre
    rcases append_nested_or_apart hbody hbody' hinside with ⟨v, rfl⟩ | ⟨w, rfl⟩
    · left
      have hpost : post = v ++ '{' :: (body' ++ '}' :: post') := by
        simpa using hinside
      have := Cursor.between_lt_between (s := '}' :: v) (pre ++ ['{'] ++ body)
        ('{' :: (body' ++ '}' :: post')) (by simp)
      simpa [around, hpost] using this
    · right
      have hpost : post' = w ++ '}' :: post := by
        simpa using hinside.symm
      have := Cursor.between_lt_between (s := '}' :: w) (pre ++ ['{'] ++ u ++ ['{'] ++ body')
        ('}' :: post) (by simp)
      simpa [around, hpost] using this

/-! ### Where a second keyword opens -/

namespace Braces

variable {c d : Cursor} {b : Braces}

theorem exists_rest_opening (h : bracesAt c = .ok (some b)) :
    ∃ rest, b.opening.rest = '{' :: rest := by
  obtain ⟨pre, body, post, -, rfl, -⟩ := bracesAt_eq_some h
  exact ⟨_, rfl⟩

theorem exists_rest_closing (h : bracesAt c = .ok (some b)) :
    ∃ rest, b.closing.rest = '}' :: rest := by
  obtain ⟨pre, body, post, -, rfl, -⟩ := bracesAt_eq_some h
  exact ⟨_, rfl⟩

/-- No place stands between those in front of and behind the closing brace. -/
theorem le_closing (h : bracesAt c = .ok (some b)) (hd : d < b.outside) : d ≤ b.closing := by
  obtain ⟨pre, body, post, -, rfl, -⟩ := bracesAt_eq_some h
  simp only [around, Cursor.between, List.reverse_append, List.reverse_singleton,
    List.singleton_append] at hd ⊢
  exact Cursor.le_of_lt_next hd

/-- A keyword that begins with neither a blank nor a brace, behind another one, begins behind the
brace that the other one opens. -/
theorem opening_lt_of_le {x : Char} {rest : List Char} (hb : bracesAt c = .ok (some b))
    (hle : c ≤ d) (hrest : d.rest = x :: rest) (hblank : isAsciiBlank x = false)
    (hbrace : x ≠ '{') : b.opening < d := by
  have htext : b.opening.text = d.text :=
    (Cursor.text_eq_of_le (le_opening hb)).symm.trans (Cursor.text_eq_of_le hle)
  refine (Cursor.lt_or_le_of_text_eq htext).resolve_right fun hge => ?_
  -- what stands at `d` is then a blank or the brace itself
  rcases eq_or_lt_of_le hge with rfl | hlt
  · obtain ⟨rest', hopening⟩ := exists_rest_opening hb
    rw [hopening] at hrest
    exact hbrace (List.cons.inj hrest).1.symm
  · have hx := Cursor.mem_upTo_of_rest hle hlt hrest
    rw [opening_eq_skipWhile hb] at hx
    rw [Cursor.of_mem_upTo_skipWhile hx] at hblank
    exact absurd hblank (by simp)

end Braces

/-- The body begins one byte behind the opening brace. -/
theorem Braces.offset_inside {c : Cursor} {b : Braces} (h : bracesAt c = .ok (some b)) :
    b.inside.offset = b.opening.offset + 1 := by
  obtain ⟨pre, body, post, -, rfl, -⟩ := bracesAt_eq_some h
  have hone : Text.byteLength ['{'] = 1 := rfl
  simp only [around, Cursor.offset_between, Text.byteLength_append, hone]

/-! ### The places of the braces of a block -/

namespace Block

/-- The block is a match of the pattern, with a character, and the braces behind it. -/
structure IsReported (p : Pattern) (b : Block) : Prop where
  matchAt : p.matchAt? b.keyword.start = some b.keyword
  start_lt_stop : b.keyword.start < b.keyword.stop
  braces_eq : bracesAt b.keyword.stop = .ok b.braces

/-- The body reaches from behind the opening brace to the closing one. -/
theorem IsReported.bodySpan?_eq {p : Pattern} {b : Block} (h : b.IsReported p) :
    b.bodySpan? = b.braces.map fun braces => braces.inside.span braces.closing := by
  rcases hb : b.braces with _ | braces
  · rw [bodySpan?, body?, hb]
    rfl
  · have hbraces := h.braces_eq
    rw [hb] at hbraces
    obtain ⟨pre, body, post, -, rfl, -⟩ := bracesAt_eq_some hbraces
    rw [bodySpan?_of_around hb]
    simp [Braces.around, Cursor.span]

end Block

/-! ### The blocks of a walk -/

namespace Scanner

/-- Every block of a walk is a match and the braces behind it, at or behind the place where the walk
stands. -/
theorem isReported_of_mem_results {s : Scanner} {b : Block} (hb : .ok b ∈ s.results) :
    b.IsReported s.pattern ∧ ∃ c, s.cursor = some c ∧ c ≤ b.keyword.start := by
  induction s using run_induction with
  | stop s s' hnext => simp [results_of_next_none hnext] at hb
  | fail s e s' hnext => simp [results_of_next_error hnext] at hb
  | step s b' s' hnext ih =>
    obtain ⟨c, hc, hm, hlt, hbraces, rfl⟩ := next_eq_ok hnext
    rw [results_of_next_some hnext, List.mem_cons] at hb
    rcases hb with hb | hb
    · obtain rfl := Except.ok.inj hb
      exact ⟨⟨hm.matchAt, hlt, hbraces⟩, c, hc, hm.le_start⟩
    · obtain ⟨hreported, d, hd, hle⟩ := ih hb
      obtain rfl := Option.some.inj hd
      have hgo := s.keyword_stop_le_resumeAfter hbraces
      exact ⟨hreported, c, hc, hm.le_start.trans (hlt.le.trans (hgo.trans hle))⟩

/-- A block of a walk has its keyword behind those of the blocks before it. -/
theorem keyword_pairwise (s : Scanner) :
    s.results.Pairwise fun r r' =>
      ∀ b b', r = .ok b → r' = .ok b' → b.keyword.stop ≤ b'.keyword.start := by
  induction s using run_induction with
  | stop s s' hnext =>
    rw [results_of_next_none hnext]
    exact List.Pairwise.nil
  | fail s e s' hnext =>
    rw [results_of_next_error hnext]
    exact List.pairwise_singleton _ _
  | step s b s' hnext ih =>
    obtain ⟨c, -, -, -, hbraces, rfl⟩ := next_eq_ok hnext
    rw [results_of_next_some hnext, List.pairwise_cons]
    refine ⟨?_, ih⟩
    intro r hr b₁ b' hb₁ hb'
    obtain rfl := Except.ok.inj hb₁
    subst hb'
    obtain ⟨-, d, hd, hle⟩ := isReported_of_mem_results hr
    obtain rfl := Option.some.inj hd
    exact (s.keyword_stop_le_resumeAfter hbraces).trans hle

/-- A walk without an error misses no match: where its pattern, which takes some character at every
match, has one, a block of the walk begins, or an earlier one is not over. -/
theorem exists_mem_results_over {s : Scanner} {c₀ c : Cursor} (hc₀ : s.cursor = some c₀)
    (hle : c₀ ≤ c) (hlt : ∀ d m, s.pattern.matchAt? d = some m → m.start < m.stop)
    (herror : ∀ e, .error e ∉ s.results) {m : Match} (hm : s.pattern.matchAt? c = some m) :
    ∃ b, .ok b ∈ s.results ∧ b.keyword.start ≤ c ∧ c < s.resumeAfter b := by
  induction s using run_induction generalizing c₀ with
  | stop s s' hnext =>
    rcases search_of_next_eq_none hnext hc₀ with hnone | ⟨m', hl, heq⟩
    · rw [hnone c hle] at hm
      exact nomatch hm
    · exact absurd heq (hlt _ m' hl.matchAt).ne
  | fail s e s' hnext =>
    rw [results_of_next_error hnext] at herror
    exact absurd (List.mem_singleton_self _) (herror e)
  | step s b s' hnext ih =>
    obtain ⟨c', hc', hl, hlt', hb, rfl⟩ := next_eq_ok hnext
    obtain rfl := Option.some.inj (hc₀.symm.trans hc')
    rw [results_of_next_some hnext] at herror ⊢
    have hstart : b.keyword.start ≤ c := by
      have htext := (Cursor.text_eq_of_le hle).symm.trans (Cursor.text_eq_of_le hl.le_start)
      refine (Cursor.lt_or_le_of_text_eq htext).resolve_left fun hbefore => ?_
      rw [hl.first c hle hbefore] at hm
      exact nomatch hm
    have htext : c.text = (s.resumeAfter b).text := by
      rw [← Cursor.text_eq_of_le hstart, Cursor.text_eq_of_le hlt'.le]
      exact Cursor.text_eq_of_le (s.keyword_stop_le_resumeAfter hb)
    rcases Cursor.lt_or_le_of_text_eq htext with hbehind | hinside
    · exact ⟨b, List.mem_cons_self .., hstart, hbehind⟩
    · obtain ⟨b', hb', hover⟩ := ih rfl hinside hlt
        (fun e he => herror e (List.mem_cons_of_mem _ he)) hm
      exact ⟨b', List.mem_cons_of_mem _ hb', hover⟩

theorem eq_map_ok_of_collect {rs : List (Except UnclosedBlock Block)} {bs : List Block}
    (h : collect rs = .ok bs) : rs = bs.map .ok := by
  induction rs generalizing bs with
  | nil =>
    obtain rfl := Except.ok.inj h
    rfl
  | cons r rs ih =>
    rcases r with e | b
    · simp [collect] at h
    · rw [collect] at h
      rcases hrs : collect rs with e | bs'
      · simp [hrs] at h
      · rw [hrs] at h
        obtain rfl := Except.ok.inj h
        rw [ih hrs, List.map_cons]

/-- The blocks of a walk without an error are its results. -/
theorem results_of_blocks_eq_ok {s : Scanner} {bs : List Block} (h : s.blocks = .ok bs) :
    s.results = bs.map .ok :=
  eq_map_ok_of_collect h

/-- The blocks of a walk, each with its keyword behind the ones before it. -/
theorem pairwise_of_blocks_eq_ok {s : Scanner} {bs : List Block} (h : s.blocks = .ok bs) :
    (∀ b ∈ bs, b.IsReported s.pattern) ∧
      bs.Pairwise fun b b' => b.keyword.stop ≤ b'.keyword.start := by
  have hresults := results_of_blocks_eq_ok h
  constructor
  · intro b hb
    have hmem : .ok b ∈ s.results := by
      rw [hresults]
      exact List.mem_map_of_mem hb
    exact (isReported_of_mem_results hmem).1
  · have hpairwise := s.keyword_pairwise
    rw [hresults, List.pairwise_map] at hpairwise
    exact hpairwise.imp fun h => h _ _ rfl rfl

/-- The blocks of a walk that resumes behind the block, each behind the ends of the ones before
it. -/
theorem stop_pairwise_of_blocks_eq_ok {s : Scanner} (hresume : s.resume = .afterBlock)
    {bs : List Block} (h : s.blocks = .ok bs) :
    bs.Pairwise fun b b' => b.stop.offset ≤ b'.keyword.start.offset := by
  have hpairwise := results_pairwise hresume
  rw [results_of_blocks_eq_ok h, List.pairwise_map] at hpairwise
  exact hpairwise.imp fun h => h _ rfl

end Scanner
end HeaderSurvey
