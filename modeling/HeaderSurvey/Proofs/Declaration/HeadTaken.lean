import HeaderSurvey.Proofs.Declaration.ListTaken
import HeaderSurvey.Proofs.Declaration.TypePieces

/-!
# What the pattern of the types takes

`typePattern` is greedy and what follows its parts may always be nothing, so the text ahead decides
alone what a match takes.  `HeadText.IsTaken` says this in terms of the text: the keyword, the name
up to its end, the word `final` if it stands there, and the list of bases behind a colon as far as it
goes.

A head that is taken is matched (`HeadText.IsTaken.exists_matchAt?`), and what is matched is the head
that is taken (`exists_isMatch_of_matchAt?`).
-/

namespace HeaderSurvey

open Pattern

/-! ### Behind the name -/

/-- Behind a name, perhaps with the word `final`, the first text is taken, and of it `list` is kept
as the list of bases.  The last of the blanks in front of the list is given back where nothing is
taken without it. -/
inductive TailTaken : (taken : List Char) → (list : Option (List Char)) → (ahead : List Char) → Prop
  | none {ahead : List Char} :
      (∀ front rest, ahead = front ++ ':' :: rest → (∀ x ∈ front, isBlank x = true) →
        (∀ x s, rest = x :: s → isBlank x = false) ∧ RefusesList rest) →
      TailTaken [] none ahead
  | kept {front back list ahead : List Char} : (∀ x ∈ front, isBlank x = true) →
      (∀ x ∈ back, isBlank x = true) → (∀ x s, list ++ ahead = x :: s → isBlank x = false) →
      ¬ RefusesList (list ++ ahead) → RoundsTaken list ahead →
      TailTaken (front ++ ':' :: (back ++ list)) (some list) ahead
  | back {front back list ahead : List Char} {b : Char} : (∀ x ∈ front, isBlank x = true) →
      (∀ x ∈ back ++ [b], isBlank x = true) →
      (∀ x s, list ++ ahead = x :: s → isBlank x = false) →
      RefusesList (list ++ ahead) → RoundsTaken list ahead →
      TailTaken (front ++ ':' :: (back ++ b :: list)) (some (b :: list)) ahead

/-- The word `final` is taken where it stands behind blanks. -/
inductive FinalTaken : (taken : List Char) → (ahead : List Char) → Prop
  | none {ahead : List Char} :
      (∀ blanks rest, blanks ≠ [] → (∀ x ∈ blanks, isBlank x = true) →
        ahead ≠ blanks ++ ("final".toList ++ rest)) →
      FinalTaken [] ahead
  | word {blanks ahead : List Char} : blanks ≠ [] → (∀ x ∈ blanks, isBlank x = true) →
      FinalTaken (blanks ++ "final".toList) ahead

/-- What is captured in front of a list of bases, and the list. -/
inductive KeepsList (g : Captures) : Option (List Char) → Captures → Prop
  | none : KeepsList g none g
  | some (pre s post : List Char) :
      KeepsList g (some s) ((3, Cursor.between pre (s ++ post), Cursor.between (pre ++ s) post) :: g)

/-- A text begins with all its blanks. -/
theorem exists_blanks (s : List Char) : ∃ blanks rest, s = blanks ++ rest ∧
    (∀ x ∈ blanks, isBlank x = true) ∧ ∀ x s', rest = x :: s' → isBlank x = false := by
  rcases Text.forall_or_exists_first isBlank s with h | ⟨u, x, rest, rfl, hu, hx⟩
  · exact ⟨s, [], (List.append_nil s).symm, h, by simp⟩
  · exact ⟨u, x :: rest, rfl, hu, Text.forall_head hx⟩

theorem roundsTaken_cons_of_isBlank {b : Char} {s ahead : List Char} (hb : isBlank b = true)
    (h : RoundsTaken s ahead) : RoundsTaken (b :: s) ahead :=
  .plain (not_contains_of_class (by decide) hb) h

/-- Every text goes on behind a name in one of the three ways. -/
theorem exists_tailTaken (text : List Char) :
    ∃ taken list ahead, text = taken ++ ahead ∧ TailTaken taken list ahead := by
  by_cases hcolon : ∃ front rest, text = front ++ ':' :: rest ∧ ∀ x ∈ front, isBlank x = true
  · obtain ⟨front, rest, rfl, hfront⟩ := hcolon
    obtain ⟨back, rest, rfl, hback, hrest⟩ := exists_blanks rest
    obtain ⟨list, ahead, rfl, hlist⟩ := RoundsTaken.exists_append rest
    by_cases hrefused : RefusesList (list ++ ahead)
    · rcases List.eq_nil_or_concat back with rfl | ⟨back, b, rfl⟩
      · refine ⟨[], none, front ++ ':' :: ([] ++ (list ++ ahead)), rfl, .none ?_⟩
        intro front' rest' heq hfront'
        -- there is only one colon behind blanks alone
        obtain ⟨-, -, rfl⟩ := Text.append_cons_inj_of_class hfront hfront' (by decide) (by decide) heq
        exact ⟨hrest, hrefused⟩
      · rw [List.concat_eq_append] at hback ⊢
        exact ⟨_, _, ahead, by simp, .back hfront hback hrest hrefused hlist⟩
    · exact ⟨_, _, ahead, by simp, .kept hfront hback hrest hrefused hlist⟩
  · refine ⟨[], none, text, rfl, .none fun front rest heq hfront => ?_⟩
    exact absurd ⟨front, rest, heq, hfront⟩ hcolon

theorem exists_finalTaken (text : List Char) :
    ∃ taken ahead, text = taken ++ ahead ∧ FinalTaken taken ahead := by
  by_cases hword : ∃ blanks rest, blanks ≠ [] ∧ (∀ x ∈ blanks, isBlank x = true) ∧
      text = blanks ++ ("final".toList ++ rest)
  · obtain ⟨blanks, rest, hne, hblanks, rfl⟩ := hword
    exact ⟨_, rest, (List.append_assoc ..).symm, .word hne hblanks⟩
  · refine ⟨[], text, rfl, .none fun blanks rest hne hblanks heq => ?_⟩
    exact hword ⟨blanks, rest, hne, hblanks, heq⟩

section Run

variable {pre ahead taken : List Char} {list : Option (List Char)} {g : Captures}
  {k : Cursor → Captures → Option MatchEnd}

/-- Behind the colon the list is kept that is taken there. -/
theorem run_blanks_list {back list : List Char} (hk : Succeeds k)
    (hback : ∀ x ∈ back, isBlank x = true)
    (hrest : ∀ x s, list ++ ahead = x :: s → isBlank x = false)
    (hnot : ¬ RefusesList (list ++ ahead)) (hlist : RoundsTaken list ahead) :
    (many isBlank).run (Cursor.between pre (back ++ (list ++ ahead))) g
        (fun c g => (capture 3 baseListPattern).run c g k) =
      k (Cursor.between (pre ++ back ++ list) ahead)
        ((3, Cursor.between (pre ++ back) (list ++ ahead),
          Cursor.between (pre ++ back ++ list) ahead) :: g) := by
  obtain ⟨o, ho⟩ := hk (Cursor.between (pre ++ back ++ list) ahead)
    ((3, Cursor.between (pre ++ back) (list ++ ahead),
      Cursor.between (pre ++ back ++ list) ahead) :: g)
  rw [ho]
  refine run_many_of_some hback hrest ?_
  rw [run_capture, hlist.run_baseListPattern (hk.capture 3 _) hnot, ho]

/-- Where no list begins behind the blanks, the last one is given back and the list begins with
it. -/
theorem run_blanks_list_back {back list : List Char} {b : Char} (hk : Succeeds k)
    (hback : ∀ x ∈ back ++ [b], isBlank x = true)
    (hrest : ∀ x s, list ++ ahead = x :: s → isBlank x = false)
    (hrefused : RefusesList (list ++ ahead)) (hlist : RoundsTaken list ahead) :
    (many isBlank).run (Cursor.between pre (back ++ (b :: list ++ ahead))) g
        (fun c g => (capture 3 baseListPattern).run c g k) =
      k (Cursor.between (pre ++ back ++ b :: list) ahead)
        ((3, Cursor.between (pre ++ back) (b :: list ++ ahead),
          Cursor.between (pre ++ back ++ b :: list) ahead) :: g) := by
  have hb : isBlank b = true := hback b (by simp)
  have hkept : RoundsTaken (b :: list) ahead := roundsTaken_cons_of_isBlank hb hlist
  have hnot : ¬ RefusesList (b :: list ++ ahead) := fun h => h.here (startsList_of_isBlank hb _)
  obtain ⟨o, ho⟩ := hk (Cursor.between (pre ++ back ++ b :: list) ahead)
    ((3, Cursor.between (pre ++ back) (b :: list ++ ahead),
      Cursor.between (pre ++ back ++ b :: list) ahead) :: g)
  rw [ho]
  refine @run_many_back g (fun c g => (capture 3 baseListPattern).run c g k) o isBlank pre back [b]
    (list ++ ahead) hback hrest (fun u v huv hu => ?_) ?_
  · -- all of the one blank that could be given back is kept
    obtain ⟨rfl, rfl⟩ := (List.append_eq_singleton_iff.mp huv.symm).resolve_left fun h => hu h.1
    rw [run_capture]
    exact hrefused.run_eq_none (hk.capture 3 _)
  · rw [run_capture, List.singleton_append, ← List.cons_append,
      hkept.run_baseListPattern (hk.capture 3 _) hnot, ho]

/-- The blanks around the colon and a list. -/
theorem run_colon {front rest : List Char} {o : MatchEnd} (hfront : ∀ x ∈ front, isBlank x = true)
    (hk : (many isBlank).run (Cursor.between (pre ++ front ++ [':']) rest) g
      (fun c g => (capture 3 baseListPattern).run c g k) = some o) :
    (many isBlank ++ lit ":" ++ many isBlank ++ capture 3 baseListPattern).run
      (Cursor.between pre (front ++ ':' :: rest)) g k = some o := by
  rw [run_seq, run_seq, run_seq]
  refine run_many_of_some hfront (Text.forall_head (by decide)) ?_
  have hlit : lit ":" = literal [':'] := rfl
  rw [hlit]
  exact (@run_literal_between g _ (pre ++ front) [':'] rest).trans hk

/-- Without a colon that a list follows, nothing is taken. -/
theorem run_colon_eq_none (hk : Succeeds k)
    (h : ∀ front rest, ahead = front ++ ':' :: rest → (∀ x ∈ front, isBlank x = true) →
      (∀ x s, rest = x :: s → isBlank x = false) ∧ RefusesList rest) :
    (many isBlank ++ lit ":" ++ many isBlank ++ capture 3 baseListPattern).run
      (Cursor.between pre ahead) g k = none := by
  obtain ⟨front, rest, rfl, hfront, hrest⟩ := exists_blanks ahead
  rw [run_seq, run_seq, run_seq, run_many]
  refine runMany_eq_none hfront hrest fun u v huv => ?_
  have hlit : lit ":" = literal [':'] := rfl
  rw [hlit]
  cases v with
  | cons b v =>
    -- a blank stands here and no colon
    refine run_literal_eq_none fun post heq => ?_
    have hb : isBlank b = true := hfront b (by simp [huv])
    rw [(List.cons.inj heq).1] at hb
    exact absurd hb (by decide)
  | nil =>
    by_cases hcolon : ∃ rest', rest = ':' :: rest'
    · obtain ⟨rest', rfl⟩ := hcolon
      obtain ⟨hblank, hrefused⟩ := h front rest' rfl hfront
      refine (@run_literal_between g _ (pre ++ u) [':'] rest').trans ?_
      have hmany := @runMany_eq_none isBlank
        (fun c => (capture 3 baseListPattern).run c g k) (pre ++ u ++ [':']) [] rest' (by simp) hblank
        (fun u' v' huv' => by
          obtain ⟨rfl, rfl⟩ := List.append_eq_nil_iff.mp huv'.symm
          rw [List.append_nil, List.nil_append, run_capture]
          exact hrefused.run_eq_none (hk.capture 3 _))
      exact hmany
    · exact run_literal_eq_none fun post heq => hcolon ⟨post, heq⟩

/-- With the colon in front a list is taken as it is behind the colon. -/
theorem run_tail {front back list : List Char} (hk : Succeeds k)
    (hfront : ∀ x ∈ front, isBlank x = true)
    (hlist : (many isBlank).run (Cursor.between (pre ++ front ++ [':']) (back ++ (list ++ ahead))) g
        (fun c g => (capture 3 baseListPattern).run c g k) =
      k (Cursor.between (pre ++ front ++ [':'] ++ back ++ list) ahead)
        ((3, Cursor.between (pre ++ front ++ [':'] ++ back) (list ++ ahead),
          Cursor.between (pre ++ front ++ [':'] ++ back ++ list) ahead) :: g)) :
    (optional (many isBlank ++ lit ":" ++ many isBlank ++ capture 3 baseListPattern)).run
        (Cursor.between pre (front ++ ':' :: (back ++ list) ++ ahead)) g k =
      k (Cursor.between (pre ++ (front ++ ':' :: (back ++ list))) ahead)
        ((3, Cursor.between (pre ++ front ++ [':'] ++ back) (list ++ ahead),
          Cursor.between (pre ++ front ++ [':'] ++ back ++ list) ahead) :: g) := by
  have hstop : pre ++ front ++ [':'] ++ back ++ list = pre ++ (front ++ ':' :: (back ++ list)) := by
    simp
  obtain ⟨o, ho⟩ := hk (Cursor.between (pre ++ front ++ [':'] ++ back ++ list) ahead)
    ((3, Cursor.between (pre ++ front ++ [':'] ++ back) (list ++ ahead),
      Cursor.between (pre ++ front ++ [':'] ++ back ++ list) ahead) :: g)
  rw [← hstop, ho]
  apply run_optional_of_some
  have hcolon := run_colon hfront (hlist.trans ho)
  simpa using hcolon

/-- **What is taken behind a name is matched**, and the list of it is captured. -/
theorem TailTaken.exists_run (h : TailTaken taken list ahead) (pre : List Char) (g : Captures) :
    ∃ g', KeepsList g list g' ∧ ∀ k, Succeeds k →
      (optional (many isBlank ++ lit ":" ++ many isBlank ++ capture 3 baseListPattern)).run
          (Cursor.between pre (taken ++ ahead)) g k =
        k (Cursor.between (pre ++ taken) ahead) g' := by
  cases h with
  | none hnone =>
    refine ⟨g, .none, fun k hk => ?_⟩
    rw [List.append_nil]
    exact run_optional_of_none (run_colon_eq_none hk hnone)
  | @kept front back list _ hfront hback hrest hnot hlist =>
    refine ⟨_, .some (pre ++ front ++ [':'] ++ back) list ahead, fun k hk => ?_⟩
    exact run_tail hk hfront (run_blanks_list hk hback hrest hnot hlist)
  | @back front back list _ b hfront hback hrest hrefused hlist =>
    refine ⟨_, .some (pre ++ front ++ [':'] ++ back) (b :: list) ahead, fun k hk => ?_⟩
    exact run_tail hk hfront (run_blanks_list_back hk hback hrest hrefused hlist)

/-- What comes behind the word `final` succeeds, with a list or without. -/
theorem succeeds_tail (hk : Succeeds k) :
    Succeeds fun c g =>
      (optional (many isBlank ++ lit ":" ++ many isBlank ++ capture 3 baseListPattern)).run c g k := by
  intro c g
  obtain ⟨taken, list, ahead, hrest, htaken⟩ := exists_tailTaken c.rest
  obtain ⟨g', -, hrun⟩ := htaken.exists_run c.before.reverse g
  obtain ⟨o, ho⟩ := hk (Cursor.between (c.before.reverse ++ taken) ahead) g'
  refine ⟨o, ?_⟩
  have hplace := hrun k hk
  rw [← hrest, Cursor.between_self] at hplace
  exact hplace.trans ho

/-- The word `final` is matched where it is taken. -/
theorem FinalTaken.run_eq (h : FinalTaken taken ahead) (hk : Succeeds k) :
    (optional (oneOrMore isBlank ++ lit "final")).run (Cursor.between pre (taken ++ ahead)) g k =
      k (Cursor.between (pre ++ taken) ahead) g := by
  cases h with
  | none hnone =>
    rw [List.append_nil]
    refine run_optional_of_none (run_eq_none_of_way fun d f => ?_)
    -- a way would pass over blanks and the word
    rintro ⟨e, f', hblanks, hword⟩
    have hle : Cursor.between pre ([] ++ ahead) ≤ e := hblanks.le
    obtain ⟨e', f'', ⟨x, hx, hx', hbefore, -⟩, hmany, hall, -⟩ := hblanks
    have hrest := Cursor.rest_eq_upTo hle
    have hstep : (Cursor.between pre ([] ++ ahead)).upTo e = x :: e'.upTo e := by
      have hxrest : Cursor.between pre ([] ++ ahead) ≤ e' :=
        ⟨[x], hx', by rw [hbefore]; rfl⟩
      rw [← Cursor.upTo_append hxrest hmany]
      simp [Cursor.upTo, hbefore]
    rw [rest_of_way_literal hword, hstep] at hrest
    refine hnone (x :: e'.upTo e) d.rest (List.cons_ne_nil _ _) ?_ hrest
    exact List.forall_mem_cons.mpr ⟨hx, hall⟩
  | @word blanks _ hne hblanks =>
    obtain ⟨x, s, rfl⟩ := List.exists_cons_of_ne_nil hne
    obtain ⟨hx, hs⟩ := List.forall_mem_cons.mp hblanks
    obtain ⟨o, ho⟩ := hk (Cursor.between (pre ++ (x :: s ++ "final".toList)) ahead) g
    rw [ho]
    apply run_optional_of_some
    rw [run_seq, List.append_assoc]
    refine run_one_many_of_some hx hs (Text.forall_head (by decide)) ?_
    have hlit : lit "final" = literal "final".toList := rfl
    rw [hlit, run_literal_between, List.append_assoc]
    exact ho

end Run

/-! ### The whole head -/

/-- The stretches of the head of a type. -/
structure HeadText where
  keyword : TypeKeyword
  /-- What stands between the keyword and the name. -/
  blanks : List Char
  name : List Char
  /-- The word `final` and the blanks in front of it, if it is there. -/
  word : List Char
  /-- What stands behind that, up to the last base. -/
  tail : List Char

namespace HeadText

/-- From the keyword to the last base. -/
def text (p : HeadText) : List Char :=
  p.keyword.text.toList ++ (p.blanks ++ (p.name ++ (p.word ++ p.tail)))

/-- The pattern of the types takes the head in front of `ahead`, and keeps `list` of it. -/
structure IsTaken (p : HeadText) (list : Option (List Char)) (ahead : List Char) : Prop where
  blanks_ne_nil : p.blanks ≠ []
  blanks_ok : ∀ x ∈ p.blanks, isBlank x = true
  name_ok : ∃ x s, p.name = x :: s ∧ isNameStart x = true ∧ ∀ y ∈ s, isWordChar y = true
  name_ends : ∀ x s, p.word ++ (p.tail ++ ahead) = x :: s → isWordChar x = false
  word_ok : FinalTaken p.word (p.tail ++ ahead)
  tail_ok : TailTaken p.tail list ahead

/-- What a match of the head is. -/
structure IsMatch (p : HeadText) (list : Option (List Char)) (pre ahead : List Char) (m : Match) :
    Prop where
  start_eq : m.start = Cursor.between pre (p.text ++ ahead)
  stop_eq : m.stop = Cursor.between (pre ++ p.text) ahead
  keyword_eq : m.captured? 1 = some p.keyword.text.toList
  name_eq : m.captured? 2 = some p.name
  list_eq : m.captured? 3 = list

/-- **A head that is taken is matched**, if the keyword begins a word. -/
theorem IsTaken.exists_matchAt? {p : HeadText} {list : Option (List Char)} {ahead : List Char}
    (h : p.IsTaken list ahead) {pre : List Char} (hpre : Cursor.headIsWord pre.reverse = false) :
    ∃ m, typePattern.matchAt? (Cursor.between pre (p.text ++ ahead)) = some m ∧
      p.IsMatch list pre ahead m := by
  obtain ⟨b, bs, hb⟩ := List.exists_cons_of_ne_nil h.blanks_ne_nil
  obtain ⟨hb_ok, hbs_ok⟩ := List.forall_mem_cons.mp (hb ▸ h.blanks_ok)
  obtain ⟨x, s, hname, hx, hs⟩ := h.name_ok
  -- the places between the stretches, and what is captured on the way
  let atKeyword := Cursor.between pre (p.text ++ ahead)
  let atBlanks := Cursor.between (pre ++ p.keyword.text.toList)
    (p.blanks ++ (p.name ++ (p.word ++ (p.tail ++ ahead))))
  let atName := Cursor.between (pre ++ p.keyword.text.toList ++ p.blanks)
    (p.name ++ (p.word ++ (p.tail ++ ahead)))
  let atWord := Cursor.between (pre ++ p.keyword.text.toList ++ p.blanks ++ p.name)
    (p.word ++ (p.tail ++ ahead))
  let g : Captures := [(2, atName, atWord), (1, atKeyword, atBlanks)]
  obtain ⟨g', hkeeps, hrun⟩ := h.tail_ok.exists_run
    (pre ++ p.keyword.text.toList ++ p.blanks ++ p.name ++ p.word) g
  have hsplit : p.text ++ ahead =
      p.keyword.text.toList ++ (p.blanks ++ (p.name ++ (p.word ++ (p.tail ++ ahead)))) := by
    simp [text]
  have hstop : pre ++ p.keyword.text.toList ++ p.blanks ++ p.name ++ p.word ++ p.tail =
      pre ++ p.text := by
    simp [text]
  have hplace : Cursor.isWordBoundary atKeyword = true := by
    rw [Cursor.isWordBoundary, Cursor.before_between, Cursor.rest_between, hpre, hsplit,
      headIsWord_keyword]
    rfl
  have hmatch : typePattern.run atKeyword [] (fun d g => some (d, g)) =
      some (Cursor.between (pre ++ p.text) ahead, g') := by
    rw [typePattern, run_seq, run_seq, run_seq, run_seq, run_seq, wordBoundary, run_place,
      if_pos hplace, run_capture]
    change (lit "class" <|> lit "struct").run (Cursor.between pre (p.text ++ ahead)) [] _ = _
    rw [hsplit]
    apply run_keyword
    rw [hb]
    refine run_one_many_of_some hb_ok hbs_ok ?_ ?_
    · rw [hname]
      exact Text.forall_head (isBlank_of_isNameChar (isNameChar_of_isNameStart hx))
    rw [← hb, run_capture, hname]
    refine run_one_many_of_some hx hs h.name_ends ?_
    rw [← hname, h.word_ok.run_eq (succeeds_tail succeeds_some), ← hstop]
    refine Eq.trans ?_ (hrun _ succeeds_some)
    simp only [g, atName, atWord, atKeyword, atBlanks, hsplit]
  refine ⟨_, matchAt?_of_run hmatch, ⟨rfl, rfl, ?_, ?_, ?_⟩⟩
  · have hkeyword : atKeyword.upTo atBlanks = p.keyword.text.toList := by
      simp only [atKeyword, atBlanks, hsplit]
      exact Cursor.upTo_between _ _ _
    cases hkeeps <;> simp [Match.captured?, Match.capture?, g, hkeyword]
  · have hname' : atName.upTo atWord = p.name := Cursor.upTo_between _ _ _
    cases hkeeps <;> simp [Match.captured?, Match.capture?, g, hname']
  · cases hkeeps with
    | none => simp [Match.captured?, Match.capture?, g]
    | some pre' s' post' => exact captured?_cons ..

end HeadText

/-- Behind a keyword, blanks and the first character of a name some head is taken. -/
theorem exists_isTaken (kw : TypeKeyword) {blanks : List Char} (hne : blanks ≠ [])
    (hblanks : ∀ x ∈ blanks, isBlank x = true) {x : Char} (hx : isNameStart x = true)
    (s : List Char) : ∃ (p : HeadText) (list : Option (List Char)) (ahead : List Char),
      kw.text.toList ++ (blanks ++ x :: s) = p.text ++ ahead ∧ p.IsTaken list ahead := by
  -- the name goes on as far as the word does, and behind it everything is taken in some way
  obtain ⟨name, behind, rfl, hname, hends⟩ : ∃ name behind,
      s = name ++ behind ∧ (∀ y ∈ name, isWordChar y = true) ∧
        ∀ y rest, behind = y :: rest → isWordChar y = false := by
    rcases Text.forall_or_exists_first isWordChar s with hall | ⟨u, y, rest, heq, hu, hy⟩
    · exact ⟨s, [], (List.append_nil s).symm, hall, by simp⟩
    · exact ⟨u, y :: rest, heq, hu, Text.forall_head hy⟩
  obtain ⟨word, behind, rfl, hword⟩ := exists_finalTaken behind
  obtain ⟨taken, list, ahead, rfl, htaken⟩ := exists_tailTaken behind
  refine ⟨⟨kw, blanks, x :: name, word, taken⟩, list, ahead, ?_, ?_⟩
  · simp [HeadText.text]
  · exact ⟨hne, hblanks, ⟨x, name, rfl, hx, hname⟩, hends, hword, htaken⟩

/-- **What is matched is the head that is taken.** -/
theorem exists_isMatch_of_matchAt? {c : Cursor} {m : Match} (h : typePattern.matchAt? c = some m) :
    Cursor.headIsWord c.before = false ∧
      ∃ (p : HeadText) (list : Option (List Char)) (ahead : List Char),
        c.rest = p.text ++ ahead ∧ p.IsTaken list ahead ∧
          p.IsMatch list c.before.reverse ahead m := by
  obtain ⟨hword, -⟩ := exists_keyword_of_matchAt? h
  obtain ⟨kw, blanks, name, tail, hpieces⟩ := exists_headPieces h
  obtain ⟨x, s, rfl, hx, -⟩ := hpieces.name_ok
  have hahead : c.rest = kw.text.toList ++ (blanks ++ x :: (s ++ (tail ++ m.stop.rest))) := by
    have hstart := Cursor.rest_eq_upTo (le_of_matchAt? h)
    rw [hpieces.upTo_eq, start_of_matchAt? h] at hstart
    simpa using hstart
  obtain ⟨p, list, ahead, hp_text, hp⟩ :=
    exists_isTaken kw hpieces.blanks_ne_nil hpieces.blanks_ok hx (s ++ (tail ++ m.stop.rest))
  have hrest : c.rest = p.text ++ ahead := hahead.trans hp_text
  have hbefore : Cursor.headIsWord c.before.reverse.reverse = false := by simpa using hword
  obtain ⟨m', hm', hmatch⟩ := hp.exists_matchAt? hbefore
  rw [← hrest, Cursor.between_self, h] at hm'
  obtain rfl := Option.some.inj hm'
  exact ⟨hword, p, list, ahead, hrest, hp, hmatch⟩

end HeaderSurvey
