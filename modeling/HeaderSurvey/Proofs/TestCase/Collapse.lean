import HeaderSurvey.Proofs.Block.Braces
import HeaderSurvey.Proofs.TestCase.Method
import Mathlib.Data.List.Forall2

/-!
# What is read of a type body

The test methods of a type are looked for in its body with a semicolon in place of each outermost
pair of braces.  A stretch of the body is therefore read together with what stands in front of it
only through one number, the braces that are open there (`depthAfter`, `collapseFrom_append`).

From this come three facts.  A pair of braces can be put in place of a semicolon outside all others
(`collapseFrom_region`).  Bodies that differ only in what stands inside pairs of braces are read
alike (`SameOutside.collapseFrom_eq`).  And what is found in the text that is read stands in the
body, outside of all braces (`exists_outside`, `exists_literal`).
-/

namespace HeaderSurvey

open Pattern

/-! ### Braces that are open -/

/-- How many braces are open behind a text, if `depth` are open in front of it. A closing brace
without a partner does not count. -/
def depthAfter (depth : Nat) : List Char → Nat
  | [] => depth
  | c :: cs =>
    if c = '{' then depthAfter (depth + 1) cs
    else if c = '}' then depthAfter (depth - 1) cs
    else depthAfter depth cs

section Steps

variable (depth : Nat) (c : Char) (cs : List Char)

@[simp] theorem depthAfter_open : depthAfter depth ('{' :: cs) = depthAfter (depth + 1) cs :=
  rfl

@[simp] theorem depthAfter_close : depthAfter depth ('}' :: cs) = depthAfter (depth - 1) cs :=
  rfl

theorem depthAfter_cons_of_ne (ho : c ≠ '{') (hc : c ≠ '}') :
    depthAfter depth (c :: cs) = depthAfter depth cs := by
  rw [depthAfter, if_neg ho, if_neg hc]

@[simp] theorem collapseFrom_nil : collapseFrom depth [] = [] :=
  rfl

@[simp] theorem collapseFrom_zero_open :
    collapseFrom 0 ('{' :: cs) = ';' :: collapseFrom 1 cs :=
  rfl

@[simp] theorem collapseFrom_succ_open :
    collapseFrom (depth + 1) ('{' :: cs) = collapseFrom (depth + 2) cs :=
  rfl

@[simp] theorem collapseFrom_close :
    collapseFrom depth ('}' :: cs) = collapseFrom (depth - 1) cs := by
  rw [collapseFrom, if_neg (by decide), if_pos rfl]

theorem collapseFrom_zero_cons (ho : c ≠ '{') (hc : c ≠ '}') :
    collapseFrom 0 (c :: cs) = c :: collapseFrom 0 cs := by
  rw [collapseFrom, if_neg ho, if_neg hc, if_pos rfl]

theorem collapseFrom_succ_cons (ho : c ≠ '{') (hc : c ≠ '}') :
    collapseFrom (depth + 1) (c :: cs) = collapseFrom (depth + 1) cs := by
  rw [collapseFrom, if_neg ho, if_neg hc, if_neg (Nat.succ_ne_zero depth)]

end Steps

theorem depthAfter_append (depth : Nat) (s t : List Char) :
    depthAfter depth (s ++ t) = depthAfter (depthAfter depth s) t := by
  induction s generalizing depth with
  | nil => rfl
  | cons c s ih =>
    rw [List.cons_append, depthAfter, depthAfter]
    split_ifs
    · exact ih (depth + 1)
    · exact ih (depth - 1)
    · exact ih depth

/-- **What stands behind a text is read as the braces that are open there say**, whatever the text
was. -/
theorem collapseFrom_append (depth : Nat) (s t : List Char) :
    collapseFrom depth (s ++ t) = collapseFrom depth s ++ collapseFrom (depthAfter depth s) t := by
  induction s generalizing depth with
  | nil => rfl
  | cons c s ih =>
    rw [List.cons_append]
    by_cases ho : c = '{'
    · subst ho
      cases depth with
      | zero => rw [collapseFrom_zero_open, collapseFrom_zero_open, ih, depthAfter_open,
          List.cons_append]
      | succ depth => rw [collapseFrom_succ_open, collapseFrom_succ_open, ih, depthAfter_open]
    · by_cases hc : c = '}'
      · subst hc
        rw [collapseFrom_close, collapseFrom_close, ih, depthAfter_close]
      · rw [depthAfter_cons_of_ne depth c s ho hc]
        cases depth with
        | zero => rw [collapseFrom_zero_cons c _ ho hc, collapseFrom_zero_cons c _ ho hc, ih,
            List.cons_append]
        | succ depth => rw [collapseFrom_succ_cons depth c _ ho hc,
            collapseFrom_succ_cons depth c _ ho hc, ih]

/-- Inside a brace that a text does not close, nothing of the text is read, and the braces behind
it can be counted. -/
theorem collapseFrom_of_within {depth : Nat} {s : List Char} (h : Within depth s) :
    collapseFrom (depth + 1) s = [] ∧
      depthAfter depth s + s.count '}' = depth + s.count '{' := by
  induction s generalizing depth with
  | nil => exact ⟨rfl, rfl⟩
  | cons c s ih =>
    by_cases ho : c = '{'
    · subst ho
      obtain ⟨hcollapse, hdepth⟩ := ih (within_open.mp h)
      refine ⟨hcollapse, ?_⟩
      rw [depthAfter_open, (count_open s).1, (count_open s).2]
      omega
    · by_cases hc : c = '}'
      · subst hc
        cases depth with
        | zero => exact absurd h not_within_close
        | succ depth =>
          obtain ⟨hcollapse, hdepth⟩ := ih (within_close.mp h)
          refine ⟨by rw [collapseFrom_close]; exact hcollapse, ?_⟩
          rw [depthAfter_close, Nat.add_sub_cancel, (count_close s).1, (count_close s).2]
          omega
      · obtain ⟨hcollapse, hdepth⟩ := ih ((within_cons_of_ne ho hc).mp h)
        refine ⟨by rw [collapseFrom_succ_cons depth c s ho hc]; exact hcollapse, ?_⟩
        rw [depthAfter_cons_of_ne depth c s ho hc, List.count_cons_of_ne ho,
          List.count_cons_of_ne hc]
        exact hdepth

theorem Within.mono {depth depth' : Nat} {s : List Char} (hle : depth ≤ depth')
    (h : Within depth s) : Within depth' s := by
  intro p hp
  have hcount := h p hp
  omega

/-- Behind a text whose braces match, as many are open as in front of it. -/
theorem depthAfter_of_balanced {b : List Char} (hb : Balanced b) (depth : Nat) :
    depthAfter depth b = depth := by
  have hcount := (collapseFrom_of_within (hb.1.mono (Nat.zero_le depth))).2
  have hbalance := hb.2
  omega

/-- Of a pair of braces that no other is open around, a semicolon is read, and of any other pair
nothing. -/
theorem collapseFrom_region {b : List Char} (hb : Balanced b) (depth : Nat) (s : List Char) :
    collapseFrom depth ('{' :: (b ++ '}' :: s)) =
      (if depth = 0 then [';'] else []) ++ collapseFrom depth s := by
  have hinside : collapseFrom (depth + 1) (b ++ '}' :: s) = collapseFrom depth s := by
    rw [collapseFrom_append, (collapseFrom_of_within (hb.1.mono (Nat.zero_le depth))).1,
      depthAfter_of_balanced hb, List.nil_append, collapseFrom_close, Nat.add_sub_cancel]
  cases depth with
  | zero => rw [collapseFrom_zero_open, hinside, if_pos rfl, List.singleton_append]
  | succ depth => rw [collapseFrom_succ_open, hinside, if_neg (Nat.succ_ne_zero depth),
      List.nil_append]

/-! ### Bodies that are read alike -/

/-- The texts differ at most in what stands inside pairs of braces. -/
inductive SameOutside : List Char → List Char → Prop
  | nil : SameOutside [] []
  | cons {s t : List Char} (c : Char) : SameOutside s t → SameOutside (c :: s) (c :: t)
  | region {b b' s t : List Char} : Balanced b → Balanced b' → SameOutside s t →
      SameOutside ('{' :: (b ++ '}' :: s)) ('{' :: (b' ++ '}' :: t))

theorem SameOutside.append_left (s : List Char) {t t' : List Char} (h : SameOutside t t') :
    SameOutside (s ++ t) (s ++ t') := by
  induction s with
  | nil => exact h
  | cons c s ih => exact ih.cons c

theorem SameOutside.refl (s : List Char) : SameOutside s s := by
  have h := SameOutside.nil.append_left s
  rwa [List.append_nil] at h

/-- **Texts that differ only inside pairs of braces are read alike.** -/
theorem SameOutside.collapseFrom_eq {s t : List Char} (h : SameOutside s t) (depth : Nat) :
    collapseFrom depth s = collapseFrom depth t := by
  induction h generalizing depth with
  | nil => rfl
  | @cons s t c _ ih =>
    have hs := collapseFrom_append depth [c] s
    have ht := collapseFrom_append depth [c] t
    rw [List.singleton_append] at hs ht
    rw [hs, ht, ih]
  | region hb hb' _ ih => rw [collapseFrom_region hb, collapseFrom_region hb', ih]

/-! ### What is read stands outside -/

/-- Of one character something is read at most outside of all braces. -/
theorem collapseFrom_singleton (depth : Nat) (c : Char) :
    collapseFrom depth [c] = [] ∨ depth = 0 ∧ ∃ y, collapseFrom depth [c] = [y] := by
  by_cases ho : c = '{'
  · subst ho
    cases depth with
    | zero => exact Or.inr ⟨rfl, ';', rfl⟩
    | succ depth => exact Or.inl rfl
  · by_cases hc : c = '}'
    · subst hc
      exact Or.inl (collapseFrom_close depth [])
    · cases depth with
      | zero => exact Or.inr ⟨rfl, c, collapseFrom_zero_cons c [] ho hc⟩
      | succ depth => exact Or.inl (collapseFrom_succ_cons depth c [] ho hc)

/-- **Each character that is read of a text stands outside of all braces**: the text can be cut
there in two. -/
theorem exists_outside {depth : Nat} {s u v : List Char} {x : Char}
    (h : collapseFrom depth s = u ++ x :: v) :
    ∃ pre post, s = pre ++ post ∧ depthAfter depth pre = 0 ∧ collapseFrom depth pre = u ∧
      collapseFrom 0 post = x :: v := by
  induction s generalizing depth u with
  | nil => exact absurd h.symm (by simp)
  | cons c s ih =>
    have hfirst := collapseFrom_append depth [c] s
    rw [List.singleton_append, h] at hfirst
    -- a cut behind the first character is one of the rest
    have hbehind : ∀ {u'}, collapseFrom (depthAfter depth [c]) s = u' ++ x :: v →
        collapseFrom depth [c] ++ u' = u →
        ∃ pre post, c :: s = pre ++ post ∧ depthAfter depth pre = 0 ∧
          collapseFrom depth pre = u ∧ collapseFrom 0 post = x :: v := by
      intro u' hrest hu
      obtain ⟨pre, post, rfl, hdepth, hcollapse, hpost⟩ := ih hrest
      refine ⟨c :: pre, post, rfl, ?_, ?_, hpost⟩
      · rw [← List.singleton_append, depthAfter_append]
        exact hdepth
      · rw [← List.singleton_append, collapseFrom_append, hcollapse, hu]
    rcases collapseFrom_singleton depth c with hnone | ⟨rfl, y, hone⟩
    · rw [hnone, List.nil_append] at hfirst
      exact hbehind hfirst.symm (by rw [hnone, List.nil_append])
    · rw [hone, List.singleton_append] at hfirst
      cases u with
      | nil => exact ⟨[], c :: s, rfl, rfl, rfl, h⟩
      | cons z u =>
        obtain ⟨rfl, hrest⟩ := List.cons.inj hfirst
        exact hbehind hrest.symm (by rw [hone, List.singleton_append])

/-- Behind a text that closes no brace too many and leaves none open, the rest closes none too
many either. -/
theorem within_of_depthAfter {s t : List Char} (h : Within 0 (s ++ t)) (hs : depthAfter 0 s = 0) :
    Within 0 t := by
  have hfront : Within 0 s := fun p hp => h p (hp.trans (List.prefix_append s t))
  have hcount := (collapseFrom_of_within hfront).2
  intro p hp
  have hle := h (s ++ p) (List.prefix_append_right_inj s |>.mpr hp)
  rw [List.count_append, List.count_append] at hle
  omega

/-- Where no brace is closed without a partner, what is read in front of a semicolon stands in the
text as it is. -/
theorem exists_literal {s w v : List Char} (hw : ∀ x ∈ w, x ≠ ';') (hs : Within 0 s)
    (h : collapseFrom 0 s = w ++ ';' :: v) :
    ∃ y rest, s = w ++ y :: rest ∧ (y = ';' ∨ y = '{') := by
  induction w generalizing s with
  | nil =>
    cases s with
    | nil => exact absurd h.symm (by simp)
    | cons c s =>
      refine ⟨c, s, rfl, ?_⟩
      by_cases ho : c = '{'
      · exact Or.inr ho
      · have hc : c ≠ '}' := fun hc => not_within_close (hc ▸ hs)
        rw [collapseFrom_zero_cons c s ho hc] at h
        exact Or.inl (List.cons.inj h).1
  | cons x w ih =>
    obtain ⟨hx, hothers⟩ := List.forall_mem_cons.mp hw
    cases s with
    | nil => exact absurd h.symm (by simp)
    | cons c s =>
      have ho : c ≠ '{' := by
        rintro rfl
        exact hx (List.cons.inj h).1.symm
      have hc : c ≠ '}' := fun hc => not_within_close (hc ▸ hs)
      rw [collapseFrom_zero_cons c s ho hc] at h
      obtain ⟨rfl, hrest⟩ := List.cons.inj h
      obtain ⟨y, rest, rfl, hy⟩ := ih hothers ((within_cons_of_ne ho hc).mp hs) hrest
      exact ⟨y, rest, rfl, hy⟩

/-! ### Test methods stand outside -/

/-- Behind `pre`, outside of all braces, the text of a test method with this name begins, if what
stands inside of braces is left out. -/
def StandsOutside (start body name pre : List Char) : Prop :=
  ∃ post p rest, body = pre ++ post ∧ depthAfter 0 pre = 0 ∧ MethodPieces.IsTest start p ∧
    p.name = name ∧ collapseBraces post = p.text ++ rest

/-- Behind `pre` the text of a test method with this name stands, up to the semicolon or the brace
behind it. -/
def StandsLiterally (start body name pre : List Char) : Prop :=
  ∃ p y rest, MethodPieces.IsTest start p ∧ p.name = name ∧ (y = ';' ∨ y = '{') ∧
    body = pre ++ (p.head ++ '(' :: (p.params ++ ')' :: (p.qualifiers ++ y :: rest)))

/-- Of two beginnings of a text the one of which more is read is the longer one. -/
theorem length_lt_of_collapseFrom {s pre pre' : List Char} (h : pre <+: s) (h' : pre' <+: s)
    (hlt : (collapseFrom 0 pre).length < (collapseFrom 0 pre').length) :
    pre.length < pre'.length := by
  by_contra hnot
  obtain ⟨t, rfl⟩ := List.prefix_of_prefix_length_le h' h (Nat.not_lt.mp hnot)
  rw [collapseFrom_append, List.length_append] at hlt
  omega

/-- The successive matches in what is read of a body stand in the body one behind the other, each
of them outside. -/
theorem exists_places_of_successive {start body : List Char} {c : Cursor} {ms : List Match}
    (h : (testMethodPattern start).Successive c ms) (htext : c.text = collapseBraces body) :
    ∃ places : List (List Char),
      places.Pairwise (fun pre pre' => pre.length < pre'.length) ∧
      List.Forall₂ (StandsOutside start body) (ms.filterMap (·.captured? 1)) places ∧
      ∀ pre ∈ places, pre <+: body ∧ c.before.length ≤ (collapseFrom 0 pre).length := by
  induction h with
  | done _ => exact ⟨[], .nil, .nil, by simp⟩
  | empty _ _ => exact ⟨[], .nil, .nil, by simp⟩
  | @next c m ms hl hlt _ ih =>
    have hstart := Cursor.text_eq_of_le hl.le_start
    have hstop := Cursor.text_eq_of_le hlt.le
    obtain ⟨places, hsorted, hall, hplaces⟩ := ih ((hstart.trans hstop).symm.trans htext)
    obtain ⟨-, p, hp, hleads, hcaptured⟩ := exists_pieces_of_matchAt? hl.matchAt
    obtain ⟨post', hrest⟩ : ∃ rest, m.start.rest = p.text ++ rest :=
      ⟨m.stop.rest, by rw [Cursor.rest_eq_upTo hleads.1, hleads.2]⟩
    -- the match begins with the first character of its text
    have hcut : collapseFrom 0 body = m.start.before.reverse ++ 'v' :: (p.text.tail ++ post') := by
      rw [← collapseBraces, ← htext, hstart, Cursor.text, hrest]
      rfl
    obtain ⟨pre, post, rfl, hdepth, hcollapse, hpost⟩ := exists_outside hcut
    have hlength : (collapseFrom 0 pre).length = m.start.before.length := by
      rw [hcollapse, List.length_reverse]
    have hbehind := Cursor.length_before_le_of_le hl.le_start
    have hlonger := Cursor.length_before_lt_of_lt hlt
    refine ⟨pre :: places, List.pairwise_cons.mpr ⟨?_, hsorted⟩, ?_, ?_⟩
    · intro pre' hpre'
      obtain ⟨hbegins, hle⟩ := hplaces pre' hpre'
      exact length_lt_of_collapseFrom (List.prefix_append pre post) hbegins (by omega)
    · have hnames : (m :: ms).filterMap (·.captured? 1) = p.name :: ms.filterMap (·.captured? 1) :=
        List.filterMap_cons_some hcaptured
      rw [hnames]
      exact .cons ⟨post, p, post', rfl, hdepth, hp, rfl, hpost⟩ hall
    · refine List.forall_mem_cons.mpr ⟨⟨List.prefix_append pre post, by omega⟩, ?_⟩
      intro pre' hpre'
      obtain ⟨hbegins, hle⟩ := hplaces pre' hpre'
      exact ⟨hbegins, by omega⟩

/-- If no brace is closed without a partner and the prefix is made of word characters, a test method
outside stands there letter by letter. -/
theorem StandsOutside.standsLiterally {start body name pre : List Char}
    (h : StandsOutside start body name pre) (hstart : ∀ x ∈ start, isWordChar x = true)
    (hbody : Within 0 body) : StandsLiterally start body name pre := by
  obtain ⟨post, p, rest, rfl, hdepth, hp, rfl, hpost⟩ := h
  have hread : collapseFrom 0 post =
      (p.head ++ '(' :: (p.params ++ ')' :: p.qualifiers)) ++ ';' :: rest := by
    rw [← collapseBraces, hpost, p.text_eq]
    simp
  have hplain : ∀ x ∈ p.head ++ '(' :: (p.params ++ ')' :: p.qualifiers), x ≠ ';' := by
    rintro x hx rfl
    exact hp.notMem_semicolon hstart hx
  obtain ⟨y, rest', rfl, hy⟩ := exists_literal hplain (within_of_depthAfter hbody hdepth) hread
  exact ⟨p, y, rest', hp, rfl, hy, by simp⟩

/-- **A type body is read outside of braces only.**  For every prefix and every type:

1. a pair of braces behind a text that leaves none open can be exchanged for a semicolon, whatever
   stands in it;
2. two bodies that differ only inside of pairs of braces have the same test methods;
3. the test methods stand in the body outside of all braces, one behind the other;
4. and if the prefix is made of word characters and the body closes no brace without a partner, they
   stand there letter by letter. -/
theorem harvest_outside (testPrefix : String) (t : TypeDecl) :
    (∀ front inside back : List Char, depthAfter 0 front = 0 → Balanced inside →
      harvest testPrefix
          { t with body := String.ofList (front ++ '{' :: (inside ++ '}' :: back)) } =
        harvest testPrefix { t with body := String.ofList (front ++ ';' :: back) }) ∧
    (∀ body body' : List Char, SameOutside body body' →
      harvest testPrefix { t with body := String.ofList body } =
        harvest testPrefix { t with body := String.ofList body' }) ∧
    (∀ body : List Char, ∃ places : List (List Char),
      places.Pairwise (fun pre pre' => pre.length < pre'.length) ∧
      List.Forall₂ (fun m pre => StandsOutside testPrefix.toList body m.name.toList pre)
        (harvest testPrefix { t with body := String.ofList body }) places) ∧
    ∀ body name pre : List Char, (∀ x ∈ testPrefix.toList, isWordChar x = true) → Within 0 body →
      StandsOutside testPrefix.toList body name pre →
      StandsLiterally testPrefix.toList body name pre := by
  have hread : ∀ body body' : List Char, collapseBraces body = collapseBraces body' →
      harvest testPrefix { t with body := String.ofList body } =
        harvest testPrefix { t with body := String.ofList body' } := by
    intro body body' heq
    simp only [harvest, testNames, String.toList_ofList, heq]
  refine ⟨?_, ?_, ?_, ?_⟩
  · intro front inside back hfront hinside
    refine hread _ _ ?_
    rw [collapseBraces, collapseBraces, collapseFrom_append, collapseFrom_append, hfront,
      collapseFrom_region hinside, if_pos rfl,
      collapseFrom_zero_cons ';' back (by decide) (by decide)]
    rfl
  · exact fun body body' h => hread _ _ (h.collapseFrom_eq 0)
  · intro body
    obtain ⟨places, hsorted, hall, -⟩ := exists_places_of_successive
      (successive_matchesFrom (testMethodPattern testPrefix.toList)
        (Cursor.atStart (collapseBraces body))) rfl
    refine ⟨places, hsorted, ?_⟩
    rw [harvest, testNames, String.toList_ofList, List.forall₂_map_left_iff]
    simpa only [String.toList_ofList] using hall
  · intro body name pre hletters hbody h
    exact h.standsLiterally hletters hbody

/-- A method is defined in a body that also has an inner type. -/
theorem harvest_outside_inner :
    let t : TypeDecl := ⟨.structWord, "Foo", ["TestCase"], "a.h", 0, 1, ⟨0, 0⟩, ⟨0, 0⟩, ""⟩
    let front := "void test_a() const ".toList
    let inside := "\n if (x) \x7b void test_x(); \x7d\n".toList
    let back := "\nstruct S \x7b void test_y(); \x7d;\nvoid test_b(void);\n".toList
    let body := front ++ '{' :: (inside ++ '}' :: back)
    depthAfter 0 front = 0 ∧ Balanced inside ∧ (∀ x ∈ "test_".toList, isWordChar x = true) ∧
    Within 0 body ∧
    harvest "test_" { t with body := String.ofList body } =
      harvest "test_" { t with body := String.ofList (front ++ ';' :: back) } ∧
    SameOutside body (front ++ '{' :: ([] ++ '}' :: back)) ∧
    harvest "test_" { t with body := String.ofList body } =
      harvest "test_" { t with body := String.ofList (front ++ '{' :: ([] ++ '}' :: back)) } ∧
    harvest "test_" { t with body := String.ofList body } = [⟨"Foo", "test_a"⟩, ⟨"Foo", "test_b"⟩] ∧
    ∃ pre pre', pre.length < pre'.length ∧
      StandsLiterally "test_".toList body "test_a".toList pre ∧
      StandsLiterally "test_".toList body "test_b".toList pre' := by
  intro t front inside back body
  have hfront : depthAfter 0 front = 0 := by decide
  have hinside : Balanced inside := by decide +kernel
  have hletters : ∀ x ∈ "test_".toList, isWordChar x = true := by decide
  have hbody : Within 0 body := by decide +kernel
  have htests : harvest "test_" { t with body := String.ofList body } =
      [⟨"Foo", "test_a"⟩, ⟨"Foo", "test_b"⟩] := by
    decide +kernel
  have hsame : SameOutside body (front ++ '{' :: ([] ++ '}' :: back)) :=
    (SameOutside.region hinside balanced_nil (.refl back)).append_left front
  obtain ⟨hregion, halike, hplaces, hliteral⟩ := harvest_outside "test_" t
  obtain ⟨places, hsorted, hall⟩ := hplaces body
  rw [htests] at hall
  cases hall with
  | @cons _ pre _ _ ha hall =>
    cases hall with
    | @cons _ pre' _ _ hb hall =>
      cases hall
      refine ⟨hfront, hinside, hletters, hbody, hregion front inside back hfront hinside, hsame,
        halike _ _ hsame, htests, pre, pre', ?_, hliteral body _ pre hletters hbody ha,
        hliteral body _ pre' hletters hbody hb⟩
      exact List.rel_of_pairwise_cons hsorted (List.mem_singleton_self pre')

end HeaderSurvey
