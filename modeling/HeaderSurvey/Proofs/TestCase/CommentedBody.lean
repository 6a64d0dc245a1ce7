import HeaderSurvey.Proofs.Declaration.Comment
import HeaderSurvey.Proofs.TestCase.Cut

/-!
# Comments in a type body

Comments in a type body are read like any other text: a method in a comment counts, a brace in a
comment opens, and a method with a comment in it does not count.  Two things can be said
nevertheless.  A slash outside of all braces parts the body in two, which are read apart, so a
comment never joins what stands around it.  And comments of which each is `IsHarmless` can be left
out: its braces match, no test method can begin in it, and none is left open in front of it.  Both
together are `harvest_commented`; that it does not hold of all comments is `not_harvest_commented`.
-/

namespace HeaderSurvey

open Pattern

variable {start : List Char}

/-! ### Harmless comments -/

/-- A test method begins in the text and can go on behind it with a blank. -/
def LeavesOpen (start s : List Char) : Prop :=
  ∃ u v, s = u ++ v ∧ v ≠ [] ∧ Cursor.headIsWord u.reverse = false ∧
    ∃ (p : MethodPieces) (rest : List Char), p.IsTest start ∧ p.text = v ++ ' ' :: rest

/-- A test method can begin in the text, if the right characters follow. -/
def CanBegin (start s : List Char) : Prop :=
  ∃ u v, s = u ++ v ∧ v ≠ [] ∧ Cursor.headIsWord u.reverse = false ∧
    ∃ (p : MethodPieces) (rest rest' : List Char), p.IsTest start ∧ p.text ++ rest = v ++ rest'

/-- A comment behind `front` that can be left out: its braces match; and if it stands outside of all
braces, no test method is open in front of it and none can begin in it. -/
structure IsHarmless (start front comment : List Char) : Prop where
  balanced : Balanced comment
  closed : depthAfter 0 front = 0 → ¬ LeavesOpen start (collapseBraces front)
  begins : depthAfter 0 front = 0 → ¬ CanBegin start (collapseBraces comment)

/-- Of a text its characters are read, and semicolons. -/
theorem mem_of_mem_collapseFrom {depth : Nat} {s : List Char} {x : Char}
    (h : x ∈ collapseFrom depth s) (hx : x ≠ ';') : x ∈ s := by
  induction s generalizing depth with
  | nil => exact h
  | cons c s ih =>
    rw [collapseFrom] at h
    split_ifs at h
    · rcases List.mem_cons.mp h with rfl | h
      · exact absurd rfl hx
      · exact List.mem_cons_of_mem c (ih h)
    · exact List.mem_cons_of_mem c (ih h)
    · exact List.mem_cons_of_mem c (ih h)
    · rcases List.mem_cons.mp h with rfl | h
      · exact List.mem_cons_self ..
      · exact List.mem_cons_of_mem c (ih h)
    · exact List.mem_cons_of_mem c (ih h)

/-- **A comment behind a member is harmless** if its braces match and it has no letter `v`: behind the
last semicolon or brace in front of it there is no such letter either. -/
theorem isHarmless_of_notMem (hstart : ∀ x ∈ start, isWordChar x = true) {front comment : List Char}
    (hbalanced : Balanced comment) (hcomment : 'v' ∉ comment)
    (hfront : 'v' ∉ (collapseBraces front).reverse.takeWhile (· ≠ ';')) :
    IsHarmless start front comment := by
  -- the first letter of a test method is in every text that the method begins in
  have hfirst : ∀ {p : MethodPieces} {v rest rest' : List Char}, v ≠ [] →
      p.text ++ rest = v ++ rest' → 'v' ∈ v := by
    intro p v rest rest' hv htext
    obtain ⟨y, v, rfl⟩ := List.exists_cons_of_ne_nil hv
    obtain ⟨text, htext'⟩ := p.exists_text_cons
    rw [htext'] at htext
    rw [(List.cons.inj htext).1]
    exact List.mem_cons_self ..
  refine ⟨hbalanced, fun _ => ?_, fun _ => ?_⟩
  · rintro ⟨u, v, hread, hv, -, p, rest, hp, htext⟩
    have hmem : 'v' ∈ v := @hfirst p v [] (' ' :: rest) hv (by rw [List.append_nil, htext])
    -- the only semicolon of a test method is its last character, which is not in `v`
    have hsemicolon : ';' ∉ v := by
      intro hsemicolon
      refine hp.notMem_semicolon hstart ?_
      obtain ⟨t, z, hlast⟩ := (List.eq_nil_or_concat (' ' :: rest)).resolve_left (List.cons_ne_nil _ _)
      have hends : (p.head ++ '(' :: (p.params ++ ')' :: p.qualifiers)) ++ [';'] = (v ++ t) ++ [z] := by
        have hsame := p.text_eq.symm.trans htext
        rw [hlast, List.concat_eq_append] at hsame
        simpa using hsame
      rw [(List.append_singleton_inj.mp hends).1]
      exact List.mem_append_left t hsemicolon
    refine hfront ?_
    rw [hread, List.reverse_append, List.takeWhile_append_of_pos]
    · exact List.mem_append_left _ (List.mem_reverse.mpr hmem)
    · intro x hx
      rw [decide_eq_true_eq]
      rintro rfl
      exact hsemicolon (List.mem_reverse.mp hx)
  · rintro ⟨u, v, hread, hv, -, p, rest, rest', -, htext⟩
    have hmem : 'v' ∈ collapseBraces comment := by
      rw [hread]
      exact List.mem_append_right u (hfirst hv htext)
    exact hcomment (mem_of_mem_collapseFrom hmem (by decide))

/-! ### A comment as it is read -/

/-- A match of the pattern of the comments is a comment, somewhere in the text. -/
theorem exists_isComment_of_isLeftmost {c : Cursor} {m : Match} (h : commentPattern.IsLeftmost c m) :
    ∃ pre s w post, c = Cursor.between pre (s ++ (w ++ post)) ∧ IsComment w post ∧
      m.start = Cursor.between (pre ++ s) (w ++ post) ∧
      m.stop = Cursor.between (pre ++ s ++ w) post := by
  obtain ⟨pre, s, post, rfl, hplace⟩ := Cursor.exists_between_of_le h.le_start
  obtain ⟨-, hrun⟩ := matchAt?_eq_some_iff.mp h.matchAt
  rw [hplace] at hrun
  obtain ⟨w, post, rfl, hw, hstop⟩ := (run_commentPattern_eq_some_iff succeeds_some).mp hrun
  obtain ⟨hstop, -⟩ := Prod.mk.inj (Option.some.inj hstop)
  exact ⟨pre, s, w, post, rfl, hw, hplace, hstop.symm⟩

/-- Inside of braces nothing is read of a text whose braces match. -/
theorem collapseFrom_succ_of_balanced {w : List Char} (hw : Balanced w) (depth : Nat) :
    collapseFrom (depth + 1) w = [] :=
  (collapseFrom_of_within (hw.1.mono (Nat.zero_le depth))).1

/-- Outside of all braces a comment is read with its slash. -/
theorem IsComment.exists_collapseFrom {w post : List Char} (hw : IsComment w post) :
    ∃ v, collapseFrom 0 w = '/' :: v := by
  obtain ⟨s, rfl⟩ := hw.exists_cons
  exact ⟨_, collapseFrom_zero_cons '/' s (by decide) (by decide)⟩

/-- No word goes on from a comment outside of all braces into what is read behind it: the comment
ends with a slash, or the line ends behind it. -/
theorem IsComment.parts {w post : List Char} (hw : IsComment w post) (hbalanced : Balanced w)
    (pre : List Char) :
    Cursor.headIsWord (pre ++ collapseFrom 0 w).reverse = false ∨
      ∀ x rest, collapseFrom 0 post = x :: rest → isWordChar x = false := by
  cases hw with
  | line _ hpost =>
    right
    intro x rest hread
    cases post with
    | nil => exact nomatch hread
    | cons y post =>
      obtain rfl := hpost y post rfl
      rw [collapseFrom_zero_cons '\n' post (by decide) (by decide)] at hread
      obtain ⟨rfl, -⟩ := List.cons.inj hread
      decide
  | @block s _ _ =>
    left
    have hsplit : '/' :: '*' :: (s ++ ['*', '/']) = '/' :: '*' :: (s ++ ['*']) ++ ['/'] := by simp
    have hdepth := depthAfter_of_balanced hbalanced 0
    rw [hsplit, depthAfter_append,
      depthAfter_cons_of_ne _ '/' [] (by decide) (by decide)] at hdepth
    rw [hsplit, collapseFrom_append, show depthAfter 0 ('/' :: '*' :: (s ++ ['*'])) = 0 from hdepth,
      collapseFrom_zero_cons '/' [] (by decide) (by decide), ← List.append_assoc,
      List.reverse_append]
    rfl

/-! ### Leaving comments out -/

/-- Where no test method is left open, a blank is a seam. -/
theorem isSeam_blank {front s t : List Char} (hopen : ¬ LeavesOpen start (front ++ s))
    (hfront : Cursor.headIsWord front.reverse = false ∨
      ∀ x rest, s = x :: rest → isWordChar x = false) :
    IsSeam start [] s (' ' :: t) := by
  rintro u v rfl hv ⟨hpre, p, rest, hp, htext⟩
  rcases List.append_eq_append_iff.mp htext with ⟨w, hw, hrest⟩ | ⟨w, hw, hrest⟩
  · cases w with
    | nil => exact ⟨p, [], hp, by rw [List.append_nil, hw, List.append_nil]⟩
    | cons x w =>
      obtain ⟨rfl, -⟩ := List.cons.inj hrest
      refine absurd ⟨front ++ u, v, (List.append_assoc ..).symm, hv, ?_, p, w, hp, hw⟩ hopen
      rcases hfront with hfront | hfirst
      · exact (@headIsWord_append front [] u hfront).trans hpre
      · cases u with
        | cons y u => rwa [headIsWord_append_of_ne_nil front (List.cons_ne_nil y u)]
        | nil =>
          -- the text of a test method begins with a letter
          obtain ⟨y, v, rfl⟩ := List.exists_cons_of_ne_nil hv
          obtain ⟨rest', hv'⟩ := p.exists_text_cons
          rw [hv', List.cons_append] at hw
          obtain ⟨rfl, -⟩ := List.cons.inj hw
          exact absurd (hfirst 'v' v rfl) (by decide)
  · exact ⟨p, w, hp, hw⟩

/-- In a text in which no test method can begin, none is found. -/
theorem testNamesFrom_of_not_canBegin {pre s t : List Char} {x : Char} (hx : isWordChar x = false)
    (h : ¬ CanBegin start (x :: s)) :
    testNamesFrom start (Cursor.between pre (x :: s ++ t)) =
      testNamesFrom start (Cursor.between (pre ++ x :: s) t) := by
  refine testNamesFrom_skip ?_
  rintro u v hsplit hv ⟨hpre, p, rest, hp, htext⟩
  cases u with
  | nil =>
    obtain ⟨rest', hv'⟩ := p.exists_text_cons
    rw [List.nil_append] at hsplit
    rw [← hsplit, hv'] at htext
    obtain ⟨rfl, -⟩ := List.cons.inj htext
    exact absurd hx (by decide)
  | cons y u =>
    rw [headIsWord_append_of_ne_nil pre (List.cons_ne_nil y u)] at hpre
    exact h ⟨y :: u, v, hsplit, hv, hpre, p, rest, t, hp, htext.symm⟩

/-- A harmless comment outside of all braces parts the names, and so does a blank. -/
theorem testNamesFrom_comment (hslash : '/' ∉ start) {front back w post : List Char}
    (hw : IsComment w post) (hbalanced : Balanced w) (hopen : ¬ LeavesOpen start (front ++ back))
    (hbegin : ¬ CanBegin start (collapseFrom 0 w))
    (hfront : Cursor.headIsWord front.reverse = false ∨
      ∀ x rest, back = x :: rest → isWordChar x = false) :
    testNamesFrom start (Cursor.between [] (back ++ (collapseFrom 0 w ++ collapseFrom 0 post))) =
        testNamesFrom start (Cursor.between [] back) ++
          testNamesFrom start (Cursor.between [] (collapseFrom 0 post)) ∧
      ∀ t, testNamesFrom start (Cursor.between [] (back ++ ' ' :: t)) =
        testNamesFrom start (Cursor.between [] back) ++
          testNamesFrom start (Cursor.between [] t) := by
  constructor
  · have hparts := hw.parts hbalanced back
    obtain ⟨v, hv⟩ := hw.exists_collapseFrom
    rw [hv] at hbegin hparts ⊢
    have hbehind : testNamesFrom start (Cursor.between (back ++ '/' :: v) (collapseFrom 0 post)) =
        testNamesFrom start (Cursor.between [] (collapseFrom 0 post)) := by
      rcases hparts with hslash | hline
      · exact testNamesFrom_eq _ _ _ hslash
      · exact testNamesFrom_eq_of_head _ _ hline
    rw [List.cons_append, testNamesFrom_append (isSeam_slash hslash [] back _), List.nil_append,
      ← List.cons_append, testNamesFrom_of_not_canBegin (by decide) hbegin, hbehind]
  · intro t
    have hblank : ¬ BeginsTest start ([] ++ back) (' ' :: t) := not_beginsTest_cons (by decide) _ t
    rw [testNamesFrom_append (isSeam_blank hopen hfront), testNamesFrom_cons hblank,
      testNamesFrom_eq ([] ++ back ++ [' ']) [] t]
    rw [List.reverse_append]
    rfl

/-- **Harmless comments can be left out**, one after the other.  What is read in front of them falls
into a part that ends with a comment and the part behind it, in which the search has begun anew. -/
theorem testNamesFrom_spliceFrom (hslash : '/' ∉ start) {c : Cursor} {ms : List Match}
    (h : commentPattern.Successive c ms)
    (hms : ∀ m ∈ ms, IsHarmless start m.start.before.reverse (m.start.upTo m.stop))
    {front back : List Char} (hread : collapseBraces c.before.reverse = front ++ back)
    (hfront : Cursor.headIsWord front.reverse = false ∨
      ∀ x rest, back ++ collapseFrom (depthAfter 0 c.before.reverse) c.rest = x :: rest →
        isWordChar x = false) :
    testNamesFrom start (Cursor.between [] (back ++
        collapseFrom (depthAfter 0 c.before.reverse) (spliceFrom [' '] c ms))) =
      testNamesFrom start (Cursor.between [] (back ++
        collapseFrom (depthAfter 0 c.before.reverse) c.rest)) := by
  induction h generalizing front back with
  | done _ => rfl
  | empty _ _ => rfl
  | @next c m ms hl hlt _ ih =>
    obtain ⟨hm, hms⟩ := List.forall_mem_cons.mp hms
    obtain ⟨pre, s, w, post, rfl, hw, hstart, hstop⟩ := exists_isComment_of_isLeftmost hl
    have hcomment : m.start.upTo m.stop = w := by rw [hstart, hstop, Cursor.upTo_between]
    have hsplice : spliceFrom [' '] (Cursor.between pre (s ++ (w ++ post))) (m :: ms) =
        s ++ ' ' :: spliceFrom [' '] m.stop ms := by
      rw [spliceFrom, hstart, Cursor.upTo_between, List.append_assoc]
      rfl
    rw [hcomment, hstart] at hm
    rw [hsplice]
    rw [hstop] at ih ⊢
    simp only [Cursor.before_between, List.reverse_reverse, Cursor.rest_between] at hm hread hfront ih ⊢
    -- as many braces are open behind the comment as in front of it
    have hdepth : depthAfter 0 (pre ++ s ++ w) = depthAfter (depthAfter 0 pre) s := by
      rw [depthAfter_append _ _ w, depthAfter_of_balanced hm.balanced, depthAfter_append]
    have hthere : collapseBraces (pre ++ s) = front ++ (back ++ collapseFrom (depthAfter 0 pre) s) := by
      rw [collapseBraces, collapseFrom_append, ← List.append_assoc, ← hread]
      rfl
    have hbehind : collapseBraces (pre ++ s ++ w) = front ++ (back ++ collapseFrom (depthAfter 0 pre) s) ++
        collapseFrom (depthAfter (depthAfter 0 pre) s) w := by
      rw [collapseBraces, collapseFrom_append, ← depthAfter_append, ← hthere]
      rfl
    have hall : back ++ collapseFrom (depthAfter 0 pre) (s ++ (w ++ post)) =
        (back ++ collapseFrom (depthAfter 0 pre) s) ++
          (collapseFrom (depthAfter (depthAfter 0 pre) s) w ++
            collapseFrom (depthAfter (depthAfter 0 pre) s) post) := by
      rw [collapseFrom_append, collapseFrom_append, depthAfter_of_balanced hm.balanced,
        List.append_assoc]
    rw [hdepth] at ih
    rw [hall] at hfront ⊢
    rw [collapseFrom_append, ← List.append_assoc]
    cases hbraces : depthAfter (depthAfter 0 pre) s with
    | succ depth =>
      rw [hbraces] at ih hbehind hfront
      rw [collapseFrom_succ_of_balanced hm.balanced, List.append_nil] at hbehind
      rw [collapseFrom_succ_of_balanced hm.balanced, List.nil_append] at hfront ⊢
      rw [collapseFrom_succ_cons depth ' ' _ (by decide) (by decide)]
      exact ih hms hbehind hfront
    | zero =>
      rw [hbraces] at ih hbehind hfront
      have hopen := hm.closed ((depthAfter_append 0 pre s).trans hbraces)
      have hbegin := hm.begins ((depthAfter_append 0 pre s).trans hbraces)
      rw [hthere] at hopen
      have hfirst : Cursor.headIsWord front.reverse = false ∨
          ∀ x rest, back ++ collapseFrom (depthAfter 0 pre) s = x :: rest → isWordChar x = false := by
        refine hfront.imp_right fun hfront x rest hback => ?_
        exact hfront x _ (by rw [hback, List.cons_append])
      obtain ⟨hcommented, hblank⟩ := testNamesFrom_comment hslash hw hm.balanced hopen hbegin hfirst
      rw [collapseFrom_zero_cons ' ' _ (by decide) (by decide), hblank, hcommented]
      have hrest := @ih hms (collapseBraces (pre ++ s ++ w)) [] (List.append_nil _).symm (by
        rw [hbehind]
        exact hw.parts hm.balanced _)
      exact congrArg (testNamesFrom start _ ++ ·) hrest

/-! ### Comments that can be left out, and others -/

/-- **What comments do to the test methods.**  For every prefix without a slash:

1. a slash outside of all braces parts a body in two, whose test methods are found one after the
   other as if the other part were not there;
2. if each comment of a body is harmless, the test methods are those of the body with a blank in
   place of each comment. -/
theorem harvest_commented (testPrefix : String) (hslash : '/' ∉ testPrefix.toList) (t : TypeDecl) :
    (∀ front back : List Char, depthAfter 0 front = 0 →
      harvest testPrefix { t with body := String.ofList (front ++ '/' :: back) } =
        harvest testPrefix { t with body := String.ofList front } ++
          harvest testPrefix { t with body := String.ofList back }) ∧
    ∀ body : List Char,
      (∀ m ∈ commentPattern.matchesFrom (Cursor.atStart body),
        IsHarmless testPrefix.toList m.start.before.reverse (m.start.upTo m.stop)) →
      harvest testPrefix { t with body := String.ofList (commentPattern.replaceAll [' '] body) } =
        harvest testPrefix { t with body := String.ofList body } := by
  constructor
  · intro front back hfront
    have hnames : testNames testPrefix.toList (front ++ '/' :: back) =
        testNames testPrefix.toList front ++ testNames testPrefix.toList back := by
      have hread : collapseBraces (front ++ '/' :: back) =
          collapseBraces front ++ '/' :: collapseBraces back := by
        rw [collapseBraces, collapseFrom_append, hfront,
          collapseFrom_zero_cons '/' back (by decide) (by decide)]
        rfl
      rw [testNames, hread]
      exact testNamesFrom_slash hslash [] _ _
    simp only [harvest, String.toList_ofList, hnames, List.map_append]
  · intro body hbody
    have hnames : testNames testPrefix.toList (commentPattern.replaceAll [' '] body) =
        testNames testPrefix.toList body :=
      @testNamesFrom_spliceFrom _ hslash _ _
        (successive_matchesFrom commentPattern (Cursor.atStart body)) hbody [] [] rfl (Or.inl rfl)
    simp only [harvest, String.toList_ofList, hnames]

/-- Comments stand behind the members of a body, and one holds a pair of braces. -/
theorem harvest_commented_members :
    let t : TypeDecl := ⟨.classWord, "Foo", ["TestCase"], "a.h", 0, 1, ⟨0, 0⟩, ⟨0, 0⟩, ""⟩
    let body := "\n // the first\n void test_a(); /* more \x7b \x7d */\n void test_b() const \x7b\x7d".toList
    let front := "\n void test_a(); ".toList
    let back := "* none */ void test_b();".toList
    '/' ∉ "test_".toList ∧ depthAfter 0 front = 0 ∧
    harvest "test_" { t with body := String.ofList (front ++ '/' :: back) } =
      [⟨"Foo", "test_a"⟩] ++ harvest "test_" { t with body := String.ofList back } ∧
    (∀ m ∈ commentPattern.matchesFrom (Cursor.atStart body),
      IsHarmless "test_".toList m.start.before.reverse (m.start.upTo m.stop)) ∧
    harvest "test_" { t with body := String.ofList (commentPattern.replaceAll [' '] body) } =
      harvest "test_" { t with body := String.ofList body } ∧
    harvest "test_" { t with body := String.ofList body } =
      [⟨"Foo", "test_a"⟩, ⟨"Foo", "test_b"⟩] := by
  intro t body front back
  have hslash : '/' ∉ "test_".toList := by decide
  have hfront : depthAfter 0 front = 0 := by decide
  have hcomments : ∀ m ∈ commentPattern.matchesFrom (Cursor.atStart body),
      Balanced (m.start.upTo m.stop) ∧ 'v' ∉ m.start.upTo m.stop ∧
        'v' ∉ (collapseBraces m.start.before.reverse).reverse.takeWhile (· ≠ ';') := by
    decide +kernel
  have hharmless : ∀ m ∈ commentPattern.matchesFrom (Cursor.atStart body),
      IsHarmless "test_".toList m.start.before.reverse (m.start.upTo m.stop) := by
    intro m hm
    obtain ⟨hbalanced, hcomment, hbefore⟩ := hcomments m hm
    exact isHarmless_of_notMem (by decide) hbalanced hcomment hbefore
  have hfirst : harvest "test_" { t with body := String.ofList front } = [⟨"Foo", "test_a"⟩] := by
    decide +kernel
  obtain ⟨hcut, hleave⟩ := harvest_commented "test_" hslash t
  refine ⟨hslash, hfront, ?_, hharmless, hleave body hharmless, by decide +kernel⟩
  rw [hcut front back hfront, hfirst]

/-- Not all comments can be left out: a method that is commented out counts, although the body has no
string or character literals. -/
theorem not_harvest_commented :
    ¬ ∀ (testPrefix : String) (t : TypeDecl), '"' ∉ t.body.toList → '\'' ∉ t.body.toList →
      harvest testPrefix t =
        harvest testPrefix
          { t with body := String.ofList (commentPattern.replaceAll [' '] t.body.toList) } := by
  intro h
  have hmethod := h "test_"
    ⟨.classWord, "Foo", ["TestCase"], "a.h", 0, 1, ⟨0, 0⟩, ⟨0, 0⟩, " // void test_a();\n"⟩
    (by decide) (by decide)
  exact absurd hmethod (by decide +kernel)

end HeaderSurvey
