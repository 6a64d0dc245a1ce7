import HeaderSurvey.Proofs.Declaration.Comment

/-!
# The pattern takes a whole list of bases

`Commented s t` says that the text `s` is `t` with comments in the place of blanks, and that no
comment of `s` depends on what follows.  In front of a brace `baseListPattern` takes all of such a
text or nothing (`Commented.run_baseListPattern`): nothing if it begins with a colon that is none of
the two a name may begin with.  A blank in front is then given back by the pattern before, so the
list is taken in any case (`Commented.exists_run_list`).
-/

namespace HeaderSurvey

open Pattern

/-- The first text falls into comments and characters that may stand in a list of bases, whatever
follows it, and the second is left of it with a blank for each comment. -/
inductive Commented : List Char → List Char → Prop
  | nil : Commented [] []
  | plain {x : Char} {s t : List Char} : (!"\x7b\x7d;/".toList.contains x) = true →
      Commented s t → Commented (x :: s) (x :: t)
  | comment {w s t : List Char} : (∀ post, IsComment w (s ++ post)) → Commented s t →
      Commented (w ++ s) (' ' :: t)

namespace Commented

variable {s s' t t' : List Char}

theorem uncommented (h : Commented s t) : Uncommented s t := by
  induction h with
  | nil => exact .nil
  | plain hx _ ih => exact .plain hx ih
  | @comment w s t hw _ ih =>
    have hhere := hw []
    rw [List.append_nil] at hhere
    exact .comment hhere ih

theorem append (h : Commented s t) (h' : Commented s' t') : Commented (s ++ s') (t ++ t') := by
  induction h with
  | nil => exact h'
  | plain hx _ ih => exact .plain hx ih
  | @comment w s t hw _ ih =>
    rw [List.append_assoc, List.cons_append]
    refine .comment (fun post => ?_) ih
    rw [List.append_assoc]
    exact hw (s' ++ post)

theorem of_forall (h : ∀ x ∈ s, (!"\x7b\x7d;/".toList.contains x) = true) : Commented s s := by
  induction s with
  | nil => exact .nil
  | cons x s ih =>
    obtain ⟨hx, hs⟩ := List.forall_mem_cons.mp h
    exact .plain hx (ih hs)

/-- A character that is no slash stands for itself. -/
theorem exists_tail {x : Char} (h : Commented (x :: s) t) (hx : x ≠ '/') :
    ∃ t', t = x :: t' ∧ Commented s t' := by
  generalize htext : x :: s = text at h
  cases h with
  | nil => exact nomatch htext
  | @plain y s' t' _ hrest =>
    obtain ⟨rfl, rfl⟩ := List.cons.inj htext
    exact ⟨t', rfl, hrest⟩
  | @comment w s' t' hw _ =>
    obtain ⟨w', rfl⟩ := (hw []).exists_cons
    exact absurd (List.cons.inj htext).1 hx

theorem exists_of_append {u : List Char} (h : Commented (u ++ s) t) (hu : '/' ∉ u) :
    ∃ t', t = u ++ t' ∧ Commented s t' := by
  induction u generalizing t with
  | nil => exact ⟨t, rfl, h⟩
  | cons x u ih =>
    rw [List.mem_cons, not_or] at hu
    obtain ⟨t', rfl, hrest⟩ := h.exists_tail fun heq => hu.1 heq.symm
    obtain ⟨t'', rfl, hlast⟩ := ih hrest hu.2
    exact ⟨t'', rfl, hlast⟩

end Commented

/-! ### One round -/

section Run

variable {pre post rest s t : List Char} {g : Captures}
  {k : Cursor → Captures → Option MatchEnd} {p : Char → Bool}

theorem run_round_plain (hk : Succeeds k) {x : Char} (hx : p x = true) :
    (one p <|> commentPattern).run (Cursor.between pre (x :: rest)) g k =
      k (Cursor.between (pre ++ [x]) rest) g := by
  obtain ⟨o, ho⟩ := hk (Cursor.between (pre ++ [x]) rest) g
  rw [ho]
  apply run_either_of_some
  rw [run_one_between hx]
  exact ho

theorem run_round_comment (hk : Succeeds k) (hp : p '/' = false) {w : List Char}
    (hw : IsComment w rest) :
    (one p <|> commentPattern).run (Cursor.between pre (w ++ rest)) g k =
      k (Cursor.between (pre ++ w) rest) g := by
  obtain ⟨o, ho⟩ := hk (Cursor.between (pre ++ w) rest) g
  rw [ho]
  have hslash : (one p).run (Cursor.between pre (w ++ rest)) g k = none := by
    obtain ⟨w', rfl⟩ := hw.exists_cons
    exact run_one_of_ne hp
  rw [run_either_of_none hslash]
  exact (run_commentPattern_eq_some_iff hk).mpr ⟨w, rest, rfl, hw, ho⟩

theorem run_round_eq_none {x : Char} (hp : p x = false) (hx : x ≠ '/') :
    (one p <|> commentPattern).run (Cursor.between pre (x :: rest)) g k = none := by
  rw [run_either_of_none (run_one_of_ne hp)]
  exact run_eq_none_of_way fun _ _ =>
    not_way_commentPattern fun _ hrest => hx (List.cons.inj hrest).1

/-! ### All rounds -/

/-- The rounds take a commented text up to the brace. -/
theorem Commented.runStar_eq (h : Commented s t) (hk : Succeeds k) {budget : List Char}
    (hlen : s.length ≤ budget.length) :
    runStar (one (!"\x7b\x7d;/".toList.contains ·) <|> commentPattern).run budget
        (Cursor.between pre (s ++ '{' :: post)) g k =
      k (Cursor.between (pre ++ s) ('{' :: post)) g := by
  induction h generalizing pre budget with
  | nil =>
    rw [List.append_nil]
    cases budget with
    | nil => rfl
    | cons y budget =>
      rw [runStar, List.nil_append, run_round_eq_none (by decide) (by decide)]
  | @plain x s t hx _ ih =>
    cases budget with
    | nil => exact absurd hlen (by simp)
    | cons y budget =>
      have hrest := @ih (pre ++ [x]) budget (Nat.le_of_succ_le_succ hlen)
      obtain ⟨o, ho⟩ := hk (Cursor.between (pre ++ x :: s) ('{' :: post)) g
      rw [List.append_assoc, List.singleton_append, ho] at hrest
      rw [runStar, List.cons_append, run_round_plain (hk.rounds _ budget) hx, hrest, ho]
  | @comment w s t hw _ ih =>
    obtain ⟨w', hw'⟩ := (hw []).exists_cons
    cases budget with
    | nil => exact absurd hlen (by simp [hw'])
    | cons y budget =>
      have hless : s.length ≤ budget.length := by
        rw [hw', List.length_append, List.length_cons, List.length_cons] at hlen
        omega
      have hrest := @ih (pre ++ w) budget hless
      obtain ⟨o, ho⟩ := hk (Cursor.between (pre ++ (w ++ s)) ('{' :: post)) g
      rw [List.append_assoc, ho] at hrest
      rw [runStar, List.append_assoc,
        run_round_comment (hk.rounds _ budget) (by decide) (hw ('{' :: post)), hrest, ho]

theorem Commented.run_star_eq (h : Commented s t) (hk : Succeeds k) :
    (star (one (!"\x7b\x7d;/".toList.contains ·) <|> commentPattern)).run
        (Cursor.between pre (s ++ '{' :: post)) g k =
      k (Cursor.between (pre ++ s) ('{' :: post)) g := by
  rw [run_star]
  refine h.runStar_eq hk ?_
  simp

/-! ### The list -/

/-- A list of bases behind the colons that it may begin with. -/
def baseListTail : Pattern :=
  (one (!":\x7b\x7d;/".toList.contains ·) <|> commentPattern) ++
    star (one (!"\x7b\x7d;/".toList.contains ·) <|> commentPattern)

theorem run_baseListPattern_eq (c : Cursor) :
    baseListPattern.run c g k =
      (optional (lit "::")).run c g (fun c g => baseListTail.run c g k) :=
  rfl

theorem run_baseListTail_eq_none {x : Char} (hx : x = ':' ∨ x = '{') :
    baseListTail.run (Cursor.between pre (x :: rest)) g k = none := by
  rw [baseListTail, run_seq]
  rcases hx with rfl | rfl
  · exact run_round_eq_none (by decide) (by decide)
  · exact run_round_eq_none (by decide) (by decide)

/-- A commented text that begins with no colon is taken. -/
theorem Commented.run_baseListTail (h : Commented s t) (hk : Succeeds k) (hne : s ≠ [])
    (hcolon : ∀ rest, s ≠ ':' :: rest) :
    baseListTail.run (Cursor.between pre (s ++ '{' :: post)) g k =
      k (Cursor.between (pre ++ s) ('{' :: post)) g := by
  rw [baseListTail, run_seq]
  cases h with
  | nil => exact absurd rfl hne
  | @plain x s t hx hrest =>
    have hfirst : (!":\x7b\x7d;/".toList.contains x) = true := by
      rw [Bool.not_eq_true', ← Bool.not_eq_true, List.contains_iff_mem] at hx ⊢
      intro hmem
      rcases List.mem_cons.mp hmem with rfl | hmem
      · exact hcolon s rfl
      · exact hx hmem
    rw [List.cons_append, run_round_plain (hk.star _) hfirst, hrest.run_star_eq hk,
      List.append_assoc, List.singleton_append]
  | @comment w s t hw hrest =>
    rw [List.append_assoc, run_round_comment (hk.star _) (by decide) (hw ('{' :: post)),
      hrest.run_star_eq hk, List.append_assoc]

theorem Commented.run_baseListTail_or (h : Commented s t) :
    (∀ k, Succeeds k → baseListTail.run (Cursor.between pre (s ++ '{' :: post)) g k =
        k (Cursor.between (pre ++ s) ('{' :: post)) g) ∨
      ∀ k, baseListTail.run (Cursor.between pre (s ++ '{' :: post)) g k = none := by
  cases s with
  | nil => exact Or.inr fun k => run_baseListTail_eq_none (Or.inr rfl)
  | cons x s =>
    by_cases hx : x = ':'
    · rw [hx]
      exact Or.inr fun k => run_baseListTail_eq_none (Or.inl rfl)
    · refine Or.inl fun k hk => h.run_baseListTail hk (List.cons_ne_nil x s) fun _ heq => ?_
      exact hx (List.cons.inj heq).1

/-- The colons are passed over where they do not stand. -/
theorem run_baseListPattern_of_not_colons (h : ∀ s', s ≠ ':' :: ':' :: s') :
    baseListPattern.run (Cursor.between pre (s ++ '{' :: post)) g k =
      baseListTail.run (Cursor.between pre (s ++ '{' :: post)) g k := by
  have hnone : ∀ k, (lit "::").run (Cursor.between pre (s ++ '{' :: post)) g k = none := by
    refine fun k => run_literal_eq_none fun rest heq => ?_
    change s ++ '{' :: post = ':' :: ':' :: rest at heq
    rcases s with _ | ⟨x, _ | ⟨y, s⟩⟩
    · exact absurd (List.cons.inj heq).1 (by decide)
    · exact absurd (List.cons.inj (List.cons.inj heq).2).1 (by decide)
    · obtain ⟨hx, hrest⟩ := List.cons.inj heq
      obtain ⟨hy, -⟩ := List.cons.inj hrest
      exact h s (by rw [hx, hy])
  rw [run_baseListPattern_eq, run_optional_of_none (hnone _)]

/-- **The pattern takes a commented text as a list up to the brace, or nothing**, whatever
follows. -/
theorem Commented.run_baseListPattern (h : Commented s t) :
    (∀ k, Succeeds k → baseListPattern.run (Cursor.between pre (s ++ '{' :: post)) g k =
        k (Cursor.between (pre ++ s) ('{' :: post)) g) ∨
      ∀ k, baseListPattern.run (Cursor.between pre (s ++ '{' :: post)) g k = none := by
  by_cases hcolons : ∃ s', s = ':' :: ':' :: s'
  · obtain ⟨s', rfl⟩ := hcolons
    obtain ⟨_, -, hone⟩ := h.exists_tail (by decide)
    obtain ⟨_, -, hs'⟩ := hone.exists_tail (by decide)
    have hlit : ∀ k, (lit "::").run (Cursor.between pre (':' :: ':' :: s' ++ '{' :: post)) g
          (fun c g => baseListTail.run c g k) =
        baseListTail.run (Cursor.between (pre ++ [':', ':']) (s' ++ '{' :: post)) g k :=
      fun k => @run_literal_between g (fun c g => baseListTail.run c g k) pre [':', ':']
        (s' ++ '{' :: post)
    rcases hs'.run_baseListTail_or with htail | htail
    · refine Or.inl fun k hk => ?_
      obtain ⟨o, ho⟩ := hk (Cursor.between (pre ++ ':' :: ':' :: s') ('{' :: post)) g
      rw [ho, run_baseListPattern_eq]
      apply run_optional_of_some
      rw [hlit, htail k hk, ← ho, List.append_assoc]
      rfl
    · -- then the list would have to begin with the first colon
      refine Or.inr fun k => ?_
      rw [run_baseListPattern_eq, run_optional_of_none ((hlit k).trans (htail k))]
      exact run_baseListTail_eq_none (Or.inl rfl)
  · push Not at hcolons
    have htail := fun k => @run_baseListPattern_of_not_colons pre post s g k hcolons
    simp only [htail]
    exact h.run_baseListTail_or

/-- A commented text that begins with no colon is taken. -/
theorem Commented.run_baseListPattern_of_ne {x : Char} (h : Commented (x :: s) t)
    (hk : Succeeds k) (hx : x ≠ ':') :
    baseListPattern.run (Cursor.between pre (x :: s ++ '{' :: post)) g k =
      k (Cursor.between (pre ++ x :: s) ('{' :: post)) g := by
  have hcolon : ∀ rest, x :: s ≠ ':' :: rest := fun _ heq => hx (List.cons.inj heq).1
  rw [run_baseListPattern_of_not_colons fun s' => hcolon (':' :: s')]
  exact h.run_baseListTail hk (List.cons_ne_nil x s) hcolon

/-- Of the blanks in front of a list those are given back without which nothing is taken. -/
theorem run_list_back {front back list : List Char} (hk : Succeeds k)
    (hblanks : ∀ x ∈ front ++ back, isBlank x = true)
    (hpost : ∀ x rest, list ++ '{' :: post = x :: rest → isBlank x = false)
    (hrefused : ∀ u v, back = u ++ v → u ≠ [] → ∀ k,
      baseListPattern.run (Cursor.between (pre ++ front ++ u) (v ++ (list ++ '{' :: post))) g k =
        none)
    (htaken : ∀ k, Succeeds k →
      baseListPattern.run (Cursor.between (pre ++ front) (back ++ list ++ '{' :: post)) g k =
        k (Cursor.between (pre ++ front ++ (back ++ list)) ('{' :: post)) g) :
    (many isBlank).run (Cursor.between pre (front ++ (back ++ list) ++ '{' :: post)) g
        (fun c g => (capture 3 baseListPattern).run c g k) =
      k (Cursor.between (pre ++ (front ++ (back ++ list))) ('{' :: post))
        ((3, Cursor.between (pre ++ front) (back ++ list ++ '{' :: post),
          Cursor.between (pre ++ (front ++ (back ++ list))) ('{' :: post)) :: g) := by
  obtain ⟨o, ho⟩ := hk (Cursor.between (pre ++ (front ++ (back ++ list))) ('{' :: post))
    ((3, Cursor.between (pre ++ front) (back ++ list ++ '{' :: post),
      Cursor.between (pre ++ (front ++ (back ++ list))) ('{' :: post)) :: g)
  rw [ho, List.append_assoc, List.append_assoc]
  refine run_many_back hblanks hpost (fun u v huv hu => ?_) ?_
  · rw [run_capture]
    exact hrefused u v huv hu _
  · rw [run_capture, ← List.append_assoc, htaken _ (hk.capture 3 _), List.append_assoc, ho]

/-- Where the list is refused, the blank in front of it is given back, and the list begins with
it. -/
theorem Commented.run_list_of_refused {front list t : List Char} {b : Char}
    (h : Commented (b :: list) t) (hk : Succeeds k) (hblanks : ∀ x ∈ front ++ [b], isBlank x = true)
    (hpost : ∀ x rest, list ++ '{' :: post = x :: rest → isBlank x = false)
    (hrefused : ∀ k, baseListPattern.run
      (Cursor.between (pre ++ (front ++ [b])) (list ++ '{' :: post)) g k = none) :
    (many isBlank).run (Cursor.between pre (front ++ b :: list ++ '{' :: post)) g
        (fun c g => (capture 3 baseListPattern).run c g k) =
      k (Cursor.between (pre ++ (front ++ b :: list)) ('{' :: post))
        ((3, Cursor.between (pre ++ front) (b :: list ++ '{' :: post),
          Cursor.between (pre ++ (front ++ b :: list)) ('{' :: post)) :: g) := by
  have hcolon : b ≠ ':' := by
    rintro rfl
    exact absurd (hblanks ':' (by simp)) (by decide)
  refine @run_list_back pre post g k front [b] list hk hblanks hpost (fun u v huv hu k => ?_)
    fun k hk => h.run_baseListPattern_of_ne hk hcolon
  -- all of the one blank that could be given back is kept
  obtain ⟨rfl, rfl⟩ := (List.append_eq_singleton_iff.mp huv.symm).resolve_left fun h => hu h.1
  rw [List.append_assoc]
  exact hrefused k

/-- **Behind a colon a commented text that begins with a blank or a comment is kept as a list**, but
for some of the blanks in front. -/
theorem Commented.exists_run_list (h : Commented s t) (hk : Succeeds k) {x : Char}
    {s' : List Char} (hs : s = x :: s') (hx : isBlank x = true ∨ x = '/') :
    ∃ front list, s = front ++ list ∧ (∀ x ∈ front, isBlank x = true) ∧
      (many isBlank).run (Cursor.between pre (s ++ '{' :: post)) g
          (fun c g => (capture 3 baseListPattern).run c g k) =
        k (Cursor.between (pre ++ s) ('{' :: post))
          ((3, Cursor.between (pre ++ front) (list ++ '{' :: post),
            Cursor.between (pre ++ s) ('{' :: post)) :: g) := by
  obtain ⟨blanks, list, rfl, hblanks, hpost⟩ : ∃ blanks list, s = blanks ++ list ∧
      (∀ y ∈ blanks, isBlank y = true) ∧
        ∀ y rest, list ++ '{' :: post = y :: rest → isBlank y = false := by
    rcases Text.forall_or_exists_first isBlank s with hall | ⟨u, y, rest, rfl, hu, hy⟩
    · exact ⟨s, [], (List.append_nil s).symm, hall, Text.forall_head (by decide)⟩
    · exact ⟨u, y :: rest, rfl, hu, Text.forall_head hy⟩
  have hslash : ∀ u : List Char, (∀ y ∈ u, isBlank y = true) → '/' ∉ u :=
    fun u hu hmem => absurd (hu _ hmem) (by decide)
  obtain ⟨_, -, hlist⟩ := h.exists_of_append (hslash blanks hblanks)
  rcases @Commented.run_baseListPattern (pre ++ blanks) post list _ g hlist with htaken | hrefused
  · have hall : ∀ y ∈ blanks ++ [], isBlank y = true := by simpa using hblanks
    refine ⟨blanks, list, rfl, hblanks, ?_⟩
    refine @run_list_back pre post g k blanks [] list hk hall hpost (fun u v huv hu => ?_) htaken
    exact absurd (List.append_eq_nil_iff.mp huv.symm).1 hu
  · rcases List.eq_nil_or_concat blanks with rfl | ⟨front, b, rfl⟩
    · -- a comment in front is never refused
      obtain rfl : x = '/' := by
        refine hx.resolve_left fun hblank => ?_
        have hfirst := hpost x (s' ++ '{' :: post) (congrArg (· ++ '{' :: post) hs)
        exact absurd hblank (by simp [hfirst])
      obtain rfl : list = '/' :: s' := hs
      have htaken := (hrefused fun d g => some (d, g)).symm.trans
        (hlist.run_baseListPattern_of_ne succeeds_some (by decide))
      exact nomatch htaken
    · rw [List.concat_eq_append] at h hblanks hrefused ⊢
      rw [List.append_assoc] at h
      have hfront := (List.forall_mem_append.mp hblanks).1
      obtain ⟨_, -, hback⟩ := h.exists_of_append (hslash front hfront)
      refine ⟨front, b :: list, by simp, hfront, ?_⟩
      rw [List.append_assoc front [b] list]
      exact hback.run_list_of_refused hk hblanks hpost hrefused

end Run
end HeaderSurvey
