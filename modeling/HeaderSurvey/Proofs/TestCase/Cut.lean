import HeaderSurvey.Proofs.TestCase.Members

/-!
# Where a type body can be cut

At a place where the text of a test method stands, only one does: the pieces may be told apart in
several ways, but the text and the name are the same in each (`MethodPieces.IsTest.unique`).  So the
names that are found in a text can be listed from its beginning to its end, a method or a character
at a time (`testNamesFrom_of_isTest`, `testNamesFrom_cons`), and what was listed before matters only
through its last character (`testNamesFrom_eq_of_head`).

If no test method spans the seam of two texts, the names are those of the first and then those of the
second (`testNamesFrom_append`).  A slash is such a seam, since it stands in no test method
(`testNamesFrom_slash`).
-/

namespace HeaderSurvey

open Pattern

variable {start : List Char} {p p' : MethodPieces}

/-! ### Only one test method begins at a place -/

/-- What stands behind the name is told apart by its marks. -/
theorem MethodPieces.IsTest.tail_unique (hp : p.IsTest start) (hp' : p'.IsTest start)
    {r r' : List Char} (h : p.tail ++ r = p'.tail ++ r') : p.tail = p'.tail := by
  have hblank : isBlank '(' = false := by decide
  have hclose : isInner ')' = false := by decide
  have hend : isInner ';' = false := by decide
  simp only [tail, List.append_assoc, List.cons_append, List.nil_append] at h ⊢
  obtain ⟨hgap, -, h⟩ :=
    Text.append_cons_inj_of_class hp.gap_ok hp'.gap_ok hblank hblank h
  obtain ⟨hparams, -, h⟩ := Text.append_cons_inj_of_class
    (fun x hx => hp.params_ok.isInner_of_mem hx) (fun x hx => hp'.params_ok.isInner_of_mem hx)
    hclose hclose h
  obtain ⟨hqualifiers, -, -⟩ := Text.append_cons_inj_of_class
    (fun x hx => hp.qualifiers_ok.isInner_of_mem hx)
    (fun x hx => hp'.qualifiers_ok.isInner_of_mem hx) hend hend h
  rw [hgap, hparams, hqualifiers]

/-- Behind the name comes no word character. -/
theorem MethodPieces.IsTest.tail_cons (hp : p.IsTest start) :
    ∃ y rest, p.tail = y :: rest ∧ isWordChar y = false := by
  rw [MethodPieces.tail]
  cases hgap : p.gap with
  | nil => exact ⟨_, _, rfl, by decide⟩
  | cons y gap =>
    refine ⟨y, _, rfl, isWordChar_of_isBlank (hp.gap_ok y ?_)⟩
    rw [hgap]
    exact List.mem_cons_self ..

/-- The name ends where the word characters behind the prefix end. -/
theorem MethodPieces.IsTest.name_unique (hp : p.IsTest start) (hp' : p'.IsTest start)
    {r r' : List Char} (h : p.name ++ (p.tail ++ r) = p'.name ++ (p'.tail ++ r')) :
    p.name = p'.name ∧ p.tail = p'.tail := by
  obtain ⟨w, hname, hw⟩ := hp.name_ok
  obtain ⟨w', hname', hw'⟩ := hp'.name_ok
  obtain ⟨y, rest, htail, hy⟩ := hp.tail_cons
  obtain ⟨y', rest', htail', hy'⟩ := hp'.tail_cons
  rw [hname, hname', List.append_assoc, List.append_assoc] at h
  have hbehind := List.append_cancel_left h
  have hsame := hbehind
  rw [htail, htail', List.cons_append, List.cons_append] at hsame
  obtain ⟨rfl, -, -⟩ := Text.append_cons_inj_of_class hw hw' hy hy' hsame
  exact ⟨hname.trans hname'.symm, hp.tail_unique hp' (List.append_cancel_left hbehind)⟩

/-- The blanks in front of the name decide the rest. -/
theorem MethodPieces.IsTest.unique_of_blanks (hp : p.IsTest start) (hp' : p'.IsTest start)
    {r r' : List Char} (h : p.text ++ r = p'.text ++ r') (hblanks : p.blanks = p'.blanks) :
    p.text = p'.text ∧ p.name = p'.name := by
  simp only [text, List.append_assoc, hblanks] at h
  obtain ⟨hname, htail⟩ :=
    hp.name_unique hp' (List.append_cancel_left (List.append_cancel_left h))
  exact ⟨by rw [text, text, hblanks, hname, htail], hname⟩

theorem isBlank_of_isWordChar {x : Char} (h : isWordChar x = true) : isBlank x = false := by
  by_contra hblank
  rw [isWordChar_of_isBlank (by simpa using hblank)] at h
  exact Bool.false_ne_true h

/-- No word stands behind blanks where a parenthesis does. -/
theorem eq_nil_of_append_eq_open {s t w r r' : List Char} (hs : ∀ x ∈ s, isBlank x = true)
    (ht : ∀ x ∈ t, isBlank x = true) (hw : ∀ x ∈ w, isWordChar x = true)
    (h : s ++ (w ++ r) = t ++ '(' :: r') : w = [] := by
  cases w with
  | nil => rfl
  | cons x w =>
    have hx := hw x (List.mem_cons_self ..)
    obtain ⟨-, rfl, -⟩ :=
      Text.append_cons_inj_of_class hs ht (isBlank_of_isWordChar hx) (by decide) h
    exact absurd hx (by decide)

/-- If the prefix is blank, a word goes on behind it in both ways or in none; and if in none, all
blanks in front of the parenthesis may be counted to the gap. -/
theorem MethodPieces.IsTest.unique_of_forall_isBlank (hstart : ∀ x ∈ start, isBlank x = true)
    (hp : p.IsTest start) (hp' : p'.IsTest start) {r r' : List Char}
    (h : p.text ++ r = p'.text ++ r') : p.text = p'.text ∧ p.name = p'.name := by
  obtain ⟨w, hname, hw⟩ := hp.name_ok
  obtain ⟨w', hname', hw'⟩ := hp'.name_ok
  have hrun : ∀ x ∈ p.blanks ++ start, isBlank x = true :=
    List.forall_mem_append.mpr ⟨hp.blanks_ok, hstart⟩
  have hrun' : ∀ x ∈ p'.blanks ++ start, isBlank x = true :=
    List.forall_mem_append.mpr ⟨hp'.blanks_ok, hstart⟩
  have hgap : ∀ x ∈ p.blanks ++ start ++ p.gap, isBlank x = true :=
    List.forall_mem_append.mpr ⟨hrun, hp.gap_ok⟩
  have hgap' : ∀ x ∈ p'.blanks ++ start ++ p'.gap, isBlank x = true :=
    List.forall_mem_append.mpr ⟨hrun', hp'.gap_ok⟩
  have hbehind : p.blanks ++ start ++ (w ++ (p.tail ++ r)) =
      p'.blanks ++ start ++ (w' ++ (p'.tail ++ r')) := by
    simp only [text, hname, hname', List.append_assoc] at h
    simpa using List.append_cancel_left h
  cases w with
  | cons y w =>
    have hy := isBlank_of_isWordChar (hw y (List.mem_cons_self ..))
    cases w' with
    | cons y' w' =>
      have hy' := isBlank_of_isWordChar (hw' y' (List.mem_cons_self ..))
      obtain ⟨hsame, -, -⟩ := Text.append_cons_inj_of_class hrun hrun' hy hy' hbehind
      exact hp.unique_of_blanks hp' h (List.append_cancel_right hsame)
    | nil =>
      -- the word would stand where the other way has the parenthesis
      have hnil := eq_nil_of_append_eq_open hrun hgap' hw (by simpa [tail] using hbehind)
      exact absurd hnil (List.cons_ne_nil y w)
  | nil =>
    cases w' with
    | cons y' w' =>
      have hnil := eq_nil_of_append_eq_open hrun' hgap hw' (by simpa [tail] using hbehind.symm)
      exact absurd hnil (List.cons_ne_nil y' w')
    | nil =>
      -- with all blanks counted to the gap, what follows them is the same in both ways
      have hq : IsTest start { p with gap := p.blanks ++ start ++ p.gap } := { hp with gap_ok := hgap }
      have hq' : IsTest start { p' with gap := p'.blanks ++ start ++ p'.gap } :=
        { hp' with gap_ok := hgap' }
      have htails := @tail_unique start _ _ hq hq' r r' (by simpa [tail] using hbehind)
      rw [List.append_nil] at hname hname'
      refine ⟨?_, hname.trans hname'.symm⟩
      simpa [text, tail, hname, hname'] using htails

/-- **Only one text of a test method begins at a place**, and its name is the same in whatever way it
is told apart.  If the prefix is not blank, the blanks in front of the name are all that stand
there. -/
theorem MethodPieces.IsTest.unique (hp : p.IsTest start) (hp' : p'.IsTest start) {r r' : List Char}
    (h : p.text ++ r = p'.text ++ r') : p.text = p'.text ∧ p.name = p'.name := by
  rcases Text.forall_or_exists_first isBlank start with hstart | ⟨u, x, s, rfl, hu, hx⟩
  · exact unique_of_forall_isBlank hstart hp hp' h
  · obtain ⟨w, hname, -⟩ := hp.name_ok
    obtain ⟨w', hname', -⟩ := hp'.name_ok
    have hbehind : p.blanks ++ u ++ x :: (s ++ (w ++ (p.tail ++ r))) =
        p'.blanks ++ u ++ x :: (s ++ (w' ++ (p'.tail ++ r'))) := by
      simp only [text, hname, hname', List.append_assoc] at h
      simpa using List.append_cancel_left h
    obtain ⟨hsame, -, -⟩ := Text.append_cons_inj_of_class
      (List.forall_mem_append.mpr ⟨hp.blanks_ok, hu⟩)
      (List.forall_mem_append.mpr ⟨hp'.blanks_ok, hu⟩) hx hx hbehind
    exact hp.unique_of_blanks hp' h (List.append_cancel_right hsame)

/-! ### One method or character after another -/

/-- The text of a test method begins, and no word goes on into it. -/
def BeginsTest (start pre s : List Char) : Prop :=
  Cursor.headIsWord pre.reverse = false ∧
    ∃ (p : MethodPieces) (rest : List Char), p.IsTest start ∧ s = p.text ++ rest

theorem beginsTest_of_matchAt? {pre s : List Char} {m : Match}
    (h : (testMethodPattern start).matchAt? (Cursor.between pre s) = some m) :
    BeginsTest start pre s := by
  obtain ⟨hplace, p, hp, hleads, -⟩ := exists_pieces_of_matchAt? h
  obtain ⟨rest, htext, -⟩ := hleads.eq_between
  rw [htext, p.isWordBoundary_between_text, Bool.not_eq_true'] at hplace
  exact ⟨hplace, p, rest, hp, htext⟩

/-- Where no test method begins, the search goes on behind the next character. -/
theorem testNamesFrom_cons {pre s : List Char} {x : Char} (h : ¬ BeginsTest start pre (x :: s)) :
    testNamesFrom start (Cursor.between pre (x :: s)) =
      testNamesFrom start (Cursor.between (pre ++ [x]) s) := by
  have hnone : (testMethodPattern start).matchAt? (Cursor.between pre (x :: s)) = none :=
    Option.eq_none_iff_forall_ne_some.mpr fun _ hm => h (beginsTest_of_matchAt? hm)
  have hgo := matchesFrom_of_le (Cursor.between_le_between pre [x] s)
    (matchAt?_eq_none_of_lt_next hnone)
  exact congrArg (List.filterMap (·.captured? 1)) hgo

/-- Where a test method begins, it is found, and the search goes on behind it. -/
theorem testNamesFrom_of_isTest (hp : p.IsTest start) {pre : List Char}
    (hpre : Cursor.headIsWord pre.reverse = false) (s : List Char) :
    testNamesFrom start (Cursor.between pre (p.text ++ s)) =
      p.name :: testNamesFrom start (Cursor.between (pre ++ p.text) s) := by
  obtain ⟨m, hm⟩ := hp.exists_matchAt? hpre s
  obtain ⟨-, p', hp', hleads, hcaptured⟩ := exists_pieces_of_matchAt? hm
  obtain ⟨rest, htext, hstop⟩ := hleads.eq_between
  obtain ⟨hsame, hnames⟩ := hp.unique hp' htext
  rw [hsame] at htext
  obtain rfl := List.append_cancel_left htext
  have hlt : m.start < m.stop := by
    rw [start_of_matchAt? hm, hstop, hsame]
    exact Cursor.between_lt_between pre s (List.cons_ne_nil _ _)
  rw [testNamesFrom, matchesFrom_of_matchAt? hm hlt, hstop, hsame]
  exact List.filterMap_cons_some (by rw [hcaptured, hnames])

theorem testNamesFrom_nil (pre : List Char) : testNamesFrom start (Cursor.between pre []) = [] :=
  rfl

/-- The text of a test method is not empty. -/
theorem MethodPieces.exists_text_cons (p : MethodPieces) : ∃ rest, p.text = 'v' :: rest :=
  ⟨_, rfl⟩

/-- A test method begins only at its first letter. -/
theorem not_beginsTest_cons {x : Char} (hx : x ≠ 'v') (pre s : List Char) :
    ¬ BeginsTest start pre (x :: s) := by
  rintro ⟨-, p, rest, -, htext⟩
  obtain ⟨v, hv⟩ := p.exists_text_cons
  rw [hv] at htext
  exact hx (List.cons.inj htext).1

/-- The last character of a text decides whether a word goes on, whatever stands in front. -/
theorem headIsWord_append_of_ne_nil (pre : List Char) {s : List Char} (hs : s ≠ []) :
    Cursor.headIsWord (pre ++ s).reverse = Cursor.headIsWord s.reverse := by
  obtain ⟨u, x, rfl⟩ := (List.eq_nil_or_concat s).resolve_left hs
  simp [Cursor.headIsWord]

theorem headIsWord_append {pre pre' s : List Char}
    (h : Cursor.headIsWord pre.reverse = Cursor.headIsWord pre'.reverse) :
    Cursor.headIsWord (pre ++ s).reverse = Cursor.headIsWord (pre' ++ s).reverse := by
  cases s with
  | nil => rwa [List.append_nil, List.append_nil]
  | cons x s =>
    rw [headIsWord_append_of_ne_nil pre (List.cons_ne_nil x s),
      headIsWord_append_of_ne_nil pre' (List.cons_ne_nil x s)]

/-- A test method or a character is taken off the front of a text. -/
theorem testNames_induction (start : List Char) {P : List Char → List Char → Prop} (hnil : ∀ pre, P pre [])
    (htest : ∀ (p : MethodPieces) pre s, p.IsTest start → Cursor.headIsWord pre.reverse = false →
      P (pre ++ p.text) s → P pre (p.text ++ s))
    (hcons : ∀ x pre s, ¬ BeginsTest start pre (x :: s) → P (pre ++ [x]) s → P pre (x :: s))
    (pre s : List Char) : P pre s := by
  induction hlen : s.length using Nat.strong_induction_on generalizing pre s with
  | _ n ih =>
    by_cases hbegins : BeginsTest start pre s
    · -- a method is taken off as a whole, so the induction is on the length
      obtain ⟨hpre, p, rest, hp, rfl⟩ := hbegins
      refine htest p pre rest hp hpre (ih _ ?_ _ rest rfl)
      obtain ⟨v, hv⟩ := p.exists_text_cons
      rw [← hlen, List.length_append, hv, List.length_cons]
      omega
    · cases s with
      | nil => exact hnil pre
      | cons x s =>
        refine hcons x pre s hbegins (ih _ ?_ _ s rfl)
        rw [← hlen, List.length_cons]
        omega

/-- Of what stands in front, only the last character matters. -/
theorem testNamesFrom_eq (pre pre' s : List Char)
    (h : Cursor.headIsWord pre.reverse = Cursor.headIsWord pre'.reverse) :
    testNamesFrom start (Cursor.between pre s) = testNamesFrom start (Cursor.between pre' s) := by
  induction pre, s using testNames_induction start generalizing pre' with
  | hnil pre => rfl
  | htest p pre s hp hpre ih =>
    rw [testNamesFrom_of_isTest hp hpre, testNamesFrom_of_isTest hp (h ▸ hpre),
      ih (pre' ++ p.text) (headIsWord_append h)]
  | hcons x pre s hbegins ih =>
    have hbegins' : ¬ BeginsTest start pre' (x :: s) := fun ⟨hpre', htest⟩ =>
      hbegins ⟨h.trans hpre', htest⟩
    rw [testNamesFrom_cons hbegins, testNamesFrom_cons hbegins',
      ih (pre' ++ [x]) (headIsWord_append h)]

/-- What stands in front does not matter at all if no word goes on. -/
theorem testNamesFrom_eq_of_head (pre pre' : List Char) {s : List Char}
    (h : ∀ x rest, s = x :: rest → isWordChar x = false) :
    testNamesFrom start (Cursor.between pre s) = testNamesFrom start (Cursor.between pre' s) := by
  cases s with
  | nil => rfl
  | cons x s =>
    have hx : x ≠ 'v' := by
      rintro rfl
      exact absurd (h _ s rfl) (by decide)
    rw [testNamesFrom_cons (not_beginsTest_cons hx pre s),
      testNamesFrom_cons (not_beginsTest_cons hx pre' s)]
    refine testNamesFrom_eq _ _ s ?_
    simp [Cursor.headIsWord]

/-! ### Seams -/

/-- No test method begins in the first text and ends in the second. -/
def IsSeam (start pre s t : List Char) : Prop :=
  ∀ u v, s = u ++ v → v ≠ [] → BeginsTest start (pre ++ u) (v ++ t) →
    ∃ (p : MethodPieces) (rest : List Char), p.IsTest start ∧ v = p.text ++ rest

/-- **At a seam the names of the first text are followed by those of the second.** -/
theorem testNamesFrom_append {pre s t : List Char} (h : IsSeam start pre s t) :
    testNamesFrom start (Cursor.between pre (s ++ t)) =
      testNamesFrom start (Cursor.between pre s) ++
        testNamesFrom start (Cursor.between (pre ++ s) t) := by
  induction pre, s using testNames_induction start with
  | hnil pre => rw [testNamesFrom_nil, List.append_nil, List.nil_append, List.nil_append]
  | htest p pre s hp hpre ih =>
    have hrest : IsSeam start (pre ++ p.text) s t := by
      rintro u v rfl hv hbegins
      rw [List.append_assoc] at hbegins
      exact h (p.text ++ u) v (List.append_assoc ..).symm hv hbegins
    rw [List.append_assoc, testNamesFrom_of_isTest hp hpre, testNamesFrom_of_isTest hp hpre,
      ih hrest, List.append_assoc, List.cons_append]
  | hcons x pre s hbegins ih =>
    have hrest : IsSeam start (pre ++ [x]) s t := by
      rintro u v rfl hv hbegins
      rw [List.append_assoc] at hbegins
      exact h (x :: u) v rfl hv hbegins
    -- at a seam no test method begins here that did not begin in the first text alone
    have hwhole : ¬ BeginsTest start pre (x :: (s ++ t)) := by
      intro hwhole
      obtain ⟨p, rest, hp, htext⟩ := h [] (x :: s) rfl (List.cons_ne_nil x s)
        (by rwa [List.append_nil])
      exact hbegins ⟨hwhole.1, p, rest, hp, htext⟩
    rw [List.cons_append, testNamesFrom_cons hwhole, testNamesFrom_cons hbegins, ih hrest,
      List.append_assoc, List.singleton_append]

/-- A text in which no test method begins has no names. -/
theorem testNamesFrom_skip {pre s t : List Char}
    (h : ∀ u v, s = u ++ v → v ≠ [] → ¬ BeginsTest start (pre ++ u) (v ++ t)) :
    testNamesFrom start (Cursor.between pre (s ++ t)) =
      testNamesFrom start (Cursor.between (pre ++ s) t) := by
  induction s generalizing pre with
  | nil => rw [List.append_nil, List.nil_append]
  | cons x s ih =>
    have hhere := h [] (x :: s) rfl (List.cons_ne_nil x s)
    rw [List.append_nil, List.cons_append] at hhere
    rw [List.cons_append, testNamesFrom_cons hhere, ih, List.append_assoc, List.singleton_append]
    rintro u v rfl hv
    rw [List.append_assoc]
    exact h (x :: u) v rfl hv

/-! ### Slashes -/

/-- No slash stands in a test method, if none stands in the prefix. -/
theorem MethodPieces.IsTest.notMem_slash (hp : p.IsTest start) (hslash : '/' ∉ start) :
    '/' ∉ p.text := by
  obtain ⟨w, hname, hw⟩ := hp.name_ok
  have hblank : ∀ {s : List Char}, (∀ x ∈ s, isBlank x = true) → '/' ∉ s :=
    fun hs hmem => absurd (hs '/' hmem) (by decide)
  have hvoid : '/' ∉ p.params := by
    obtain ⟨front, word, back, hparams, hfront, hword, hback⟩ := hp.params_ok
    rw [hparams, List.mem_append, List.mem_append, not_or, not_or]
    refine ⟨hblank hfront, ?_, hblank hback⟩
    rcases hword with rfl | rfl
    · exact List.not_mem_nil
    · decide
  have hqualifiers : '/' ∉ p.qualifiers := by
    obtain ⟨blanks, words, hq, hblanks, hwords⟩ := hp.qualifiers_ok
    rw [hq, List.mem_append, not_or]
    refine ⟨hblank hblanks, fun hmem => ?_⟩
    have hselection : IsSelection qualifierWords words := hwords
    rcases hselection.isBlank_or_mem hmem with hslash | ⟨w, hw, hmem⟩
    · exact absurd hslash (by decide)
    · exact (show ∀ w ∈ qualifierWords, '/' ∉ w by decide) w hw hmem
  have hword : '/' ∉ w := fun hmem => absurd (hw '/' hmem) (by decide)
  rw [text, tail, hname]
  simp only [List.mem_append, List.mem_cons, not_or]
  exact ⟨by decide, hblank hp.blanks_ok, ⟨hslash, hword⟩, hblank hp.gap_ok, by decide, hvoid,
    by decide, hqualifiers, by decide⟩

/-- No test method goes on over a slash. -/
theorem isSeam_slash (hslash : '/' ∉ start) (pre s t : List Char) :
    IsSeam start pre s ('/' :: t) := by
  rintro u v rfl hv ⟨-, p, rest, hp, htext⟩
  rcases List.append_eq_append_iff.mp htext with ⟨w, hw, hrest⟩ | ⟨w, hw, hrest⟩
  · cases w with
    | nil => exact ⟨p, [], hp, by rw [List.append_nil, hw, List.append_nil]⟩
    | cons x w =>
      obtain ⟨rfl, -⟩ := List.cons.inj hrest
      exact absurd (by rw [hw]; simp) (hp.notMem_slash hslash)
  · exact ⟨p, w, hp, hw⟩

/-- **A slash parts the names in front of it from those behind it.** -/
theorem testNamesFrom_slash (hslash : '/' ∉ start) (pre s t : List Char) :
    testNamesFrom start (Cursor.between pre (s ++ '/' :: t)) =
      testNamesFrom start (Cursor.between pre s) ++ testNamesFrom start (Cursor.between [] t) := by
  rw [testNamesFrom_append (isSeam_slash hslash pre s t)]
  rw [testNamesFrom_cons (not_beginsTest_cons (by decide) (pre ++ s) t), testNamesFrom_eq (pre ++ s ++ ['/']) [] t]
  rw [List.reverse_append]
  rfl

end HeaderSurvey
