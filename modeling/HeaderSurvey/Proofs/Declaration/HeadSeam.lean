import HeaderSurvey.Proofs.Declaration.HeadTaken

/-!
# Heads of types in front of a seam

A text goes on with a type or with something else that begins with a comment or with the same
keyword: `Seam pre post post'`.  The heads of types in `pre` do not tell the two apart.  What is taken
in `pre` in front of the one is taken in front of the other (`HeadText.IsTaken.of_seam`), and where
nothing is matched in front of the one, nothing is in front of the other
(`matchAt?_eq_none_of_seam`).

The lists of bases in `pre` are what asks for care.  One that ends at a slash would go on if a comment
began there, and one that ends at an opening mark would go on if a closing mark came behind it.
-/

namespace HeaderSurvey

open Pattern

/-! ### Where a comment begins -/

/-- Every occurrence of a text is at or behind the first. -/
theorem exists_endsFirst {w v : List Char} (hw : w ≠ []) (h : w <:+: v) :
    ∃ s post, v = s ++ w ++ post ∧ EndsFirst w s := by
  induction v with
  | nil => exact absurd (List.infix_nil.mp h) hw
  | cons x v ih =>
    by_cases hhere : ∃ post, x :: v = w ++ post
    · obtain ⟨post, hpost⟩ := hhere
      exact ⟨[], post, hpost, endsFirst_nil w⟩
    · push Not at hhere
      have hlater : w <:+: v := by
        rcases List.infix_cons_iff.mp h with ⟨post, hpost⟩ | hlater
        · exact absurd hpost.symm (hhere post)
        · exact hlater
      obtain ⟨s, post, rfl, hfirst⟩ := ih hlater
      refine ⟨x :: s, post, rfl, (endsFirst_cons fun u hu => hhere (u ++ post) ?_).mpr hfirst⟩
      rw [← List.append_assoc, ← hu, List.cons_append]

/-- A comment begins with two slashes, or with an opening mark that a closing one follows. -/
theorem opensComment_iff {s : List Char} :
    OpensComment s ↔ (∃ v, s = '/' :: '/' :: v) ∨
      ∃ v, s = '/' :: '*' :: v ∧ ['*', '/'] <:+: v := by
  constructor
  · rintro ⟨w, post, rfl, hw⟩
    cases hw with
    | @line s _ _ _ => exact Or.inl ⟨s ++ post, rfl⟩
    | @block s _ _ => exact Or.inr ⟨s ++ ['*', '/'] ++ post, rfl, s, post, rfl⟩
  · rintro (⟨v, rfl⟩ | ⟨v, rfl, hv⟩)
    · obtain ⟨u, post, rfl, hu, hpost⟩ := exists_line v
      exact ⟨'/' :: '/' :: u, post, rfl, .line hu hpost⟩
    · obtain ⟨s, post, rfl, hfirst⟩ := exists_endsFirst (by simp) hv
      exact ⟨'/' :: '*' :: (s ++ ['*', '/']), post, by simp, .block hfirst⟩

/-! ### Seams -/

/-- Behind `pre` a type follows, perhaps behind blanks, or `post'` in its place: a text that begins
with a comment, if `pre` ends in no slash, or with the same keyword. -/
inductive SeamHead (pre : List Char) : (post post' : List Char) → Prop
  | comment {blanks rest rest' : List Char} {kw : TypeKeyword} :
      (∀ x ∈ blanks, isBlank x = true) → pre.getLast? ≠ some '/' →
      SeamHead pre (blanks ++ (kw.text.toList ++ rest)) ('/' :: rest')
  | keyword {rest rest' : List Char} {kw : TypeKeyword} :
      Cursor.headIsWord pre.reverse = false →
      SeamHead pre (kw.text.toList ++ rest) (kw.text.toList ++ rest')

/-- A place where one text goes on in two ways, which the heads of types in front of it do not tell
apart. -/
structure Seam (pre post post' : List Char) : Prop where
  head : SeamHead pre post post'
  /-- What closes an opening mark of `pre` in `post'` closes it in `post` too. -/
  closes : ∀ v, '/' :: '*' :: v <:+ pre → ['*', '/'] <:+: v ++ post' → ['*', '/'] <:+: v ++ post

/-- The first letter of a keyword. -/
theorem exists_keyword_cons (kw : TypeKeyword) : ∃ y s, kw.text.toList = y :: s ∧
    isNameStart y = true ∧ y ∉ ':' :: '*' :: "final".toList ∧ (!":\x7b\x7d;/".toList.contains y) = true := by
  cases kw with
  | classWord => exact ⟨'c', "lass".toList, by decide⟩
  | structWord => exact ⟨'s', "truct".toList, by decide⟩

namespace SeamHead

variable {pre post post' : List Char}

/-- Where a type follows, a list of bases goes on. -/
theorem exists_cons (h : SeamHead pre post post') :
    ∃ x rest, post = x :: rest ∧ (!":\x7b\x7d;/".toList.contains x) = true := by
  cases h with
  | @comment blanks rest rest' kw hblanks _ =>
    cases blanks with
    | nil =>
      obtain ⟨y, s, hy, -, -, hfirst⟩ := exists_keyword_cons kw
      exact ⟨y, s ++ rest, by rw [hy]; rfl, hfirst⟩
    | cons b blanks =>
      exact ⟨b, _, rfl, not_contains_of_class (by decide) (hblanks b (List.mem_cons_self ..))⟩
  | @keyword rest rest' kw _ =>
    obtain ⟨y, s, hy, -, -, hfirst⟩ := exists_keyword_cons kw
    exact ⟨y, s ++ rest, by rw [hy]; rfl, hfirst⟩

/-- What stands there instead begins with no blank, no mark and no letter of the word `final`. -/
theorem exists_cons' (h : SeamHead pre post post') :
    ∃ y rest, post' = y :: rest ∧ isBlank y = false ∧ y ∉ ':' :: '*' :: "final".toList := by
  cases h with
  | @comment _ _ rest' _ _ _ => exact ⟨'/', rest', rfl, by decide, by decide⟩
  | @keyword _ rest' kw _ =>
    obtain ⟨y, s, hy, hstart, hmem, -⟩ := exists_keyword_cons kw
    exact ⟨y, s ++ rest', by rw [hy]; rfl,
      isBlank_of_isNameChar (isNameChar_of_isNameStart hstart), hmem⟩

/-- A word that the other text begins with is the word that the type begins with. -/
theorem head_eq_of_isWordChar (h : SeamHead pre post post') {y : Char} {rest : List Char}
    (hy : post' = y :: rest) (hword : isWordChar y = true) : ∃ rest', post = y :: rest' := by
  cases h with
  | comment _ _ =>
    rw [← (List.cons.inj hy).1] at hword
    exact absurd hword (by decide)
  | @keyword rest₁ _ kw _ =>
    obtain ⟨z, s, hz, -⟩ := exists_keyword_cons kw
    rw [hz] at hy ⊢
    exact ⟨s ++ rest₁, by rw [(List.cons.inj hy).1]; rfl⟩

/-- A slash in front does not come to stand in front of another. -/
theorem getLast?_ne (h : SeamHead pre post post') {rest : List Char} (hrest : post' = '/' :: rest) :
    pre.getLast? ≠ some '/' := by
  cases h with
  | comment _ hlast => exact hlast
  | @keyword _ _ kw _ =>
    obtain ⟨y, s, hy, hstart, -⟩ := exists_keyword_cons kw
    rw [hy] at hrest
    rw [(List.cons.inj hrest).1] at hstart
    exact absurd hstart (by decide)

end SeamHead

/-- A text without the character behind a seam lies in front of it. -/
theorem exists_of_append_cons {v s t : List Char} {y : Char} {rest : List Char}
    (h : v ++ y :: rest = s ++ t) (hy : y ∉ s) : ∃ v', v = s ++ v' ∧ t = v' ++ y :: rest := by
  rcases List.append_eq_append_iff.mp h with ⟨s', rfl, hrest⟩ | ⟨v', rfl, ht⟩
  · rcases s' with _ | ⟨z, s'⟩
    · exact ⟨[], by simp, hrest.symm⟩
    · exact absurd (by simp [(List.cons.inj hrest).1]) hy
  · exact ⟨v', rfl, ht⟩

/-- Two texts with the same beginning have the same first character. -/
theorem forall_head_congr {P : Char → Prop} {v post post' : List Char} (hv : v ≠ [])
    (h : ∀ x s, v ++ post = x :: s → P x) : ∀ x s, v ++ post' = x :: s → P x := by
  intro x s heq
  obtain ⟨y, v, rfl⟩ := List.exists_cons_of_ne_nil hv
  rw [← (List.cons.inj heq).1]
  exact h y (v ++ post) rfl

section Seam

variable {pre post post' v : List Char}

theorem OpensComment.of_seam (hseam : Seam pre post post') (hv : v ≠ []) (hpre : v <:+ pre)
    (h : OpensComment (v ++ post')) : OpensComment (v ++ post) := by
  obtain ⟨y, rest, hpost', -, hy⟩ := hseam.head.exists_cons'
  rcases opensComment_iff.mp h with ⟨s, hs⟩ | ⟨s, hs, hclosed⟩
  · rcases v with _ | ⟨a, _ | ⟨b, v⟩⟩
    · exact absurd rfl hv
    · -- the slash in front of the seam would begin a comment with the one behind it
      obtain ⟨rfl, hs'⟩ := List.cons.inj hs
      obtain ⟨front, rfl⟩ := hpre
      exact absurd (by simp) (hseam.head.getLast?_ne hs')
    · obtain ⟨rfl, hs'⟩ := List.cons.inj hs
      obtain ⟨rfl, -⟩ := List.cons.inj hs'
      exact opensComment_iff.mpr (Or.inl ⟨v ++ post, rfl⟩)
  · rcases v with _ | ⟨a, _ | ⟨b, v⟩⟩
    · exact absurd rfl hv
    · obtain ⟨-, hs'⟩ := List.cons.inj hs
      have hstar : post' = '*' :: s := hs'
      obtain ⟨rfl, -⟩ := List.cons.inj (hpost'.symm.trans hstar)
      exact absurd (by decide) hy
    · obtain ⟨rfl, hs'⟩ := List.cons.inj hs
      obtain ⟨rfl, rfl⟩ := List.cons.inj hs'
      exact opensComment_iff.mpr (Or.inr ⟨v ++ post, rfl, hseam.closes v hpre hclosed⟩)

theorem StartsList.of_seam (hseam : Seam pre post post') (hv : v ≠ []) (hpre : v <:+ pre)
    (h : StartsList (v ++ post')) : StartsList (v ++ post) := by
  rcases h with ⟨x, rest, hx, hfirst⟩ | hopens
  · obtain ⟨y, v, rfl⟩ := List.exists_cons_of_ne_nil hv
    rw [← (List.cons.inj hx).1] at hfirst
    exact Or.inl ⟨y, v ++ post, rfl, hfirst⟩
  · exact Or.inr (hopens.of_seam hseam hv hpre)

theorem startsList_of_seamHead (h : SeamHead pre post post') : StartsList post := by
  obtain ⟨x, rest, rfl, hx⟩ := h.exists_cons
  exact Or.inl ⟨x, rest, rfl, hx⟩

theorem RefusesList.of_seam (hseam : Seam pre post post') (hpre : v <:+ pre)
    (h : RefusesList (v ++ post)) : v ≠ [] ∧ RefusesList (v ++ post') := by
  have hv : v ≠ [] := by
    rintro rfl
    exact h.here (startsList_of_seamHead hseam.head)
  refine ⟨hv, fun hstarts => h.here (hstarts.of_seam hseam hv hpre), fun rest hrest hstarts => ?_⟩
  obtain ⟨y, rest', rfl, -, hy⟩ := hseam.head.exists_cons'
  have hcolon : y ∉ [':', ':'] := fun hmem => hy (by simp_all)
  obtain ⟨v', rfl, rfl⟩ := @exists_of_append_cons v [':', ':'] rest y rest' hrest hcolon
  have hsuffix : v' <:+ pre := (List.suffix_append [':', ':'] v').trans hpre
  have hbehind := h.behind (v' ++ post) (by simp)
  by_cases hv' : v' = []
  · subst hv'
    exact hbehind (startsList_of_seamHead hseam.head)
  · exact hbehind (hstarts.of_seam hseam hv' hsuffix)

theorem RoundsTaken.of_seam (hseam : Seam pre post post') (hpre : v <:+ pre) {s : List Char}
    (h : RoundsTaken s (v ++ post)) : v ≠ [] ∧ RoundsTaken s (v ++ post') := by
  have hv : v ≠ [] := by
    rintro rfl
    exact h.endsList.not_startsList (startsList_of_seamHead hseam.head)
  refine ⟨hv, ?_⟩
  generalize hahead : v ++ post = ahead at h
  induction h with
  | nil hends =>
    subst hahead
    refine .nil ⟨forall_head_congr hv hends.head_ok, fun hopens => ?_⟩
    exact hends.not_opens (hopens.of_seam hseam hv hpre)
  | plain hx _ ih => exact .plain hx (ih hahead)
  | @comment w s _ hw _ ih =>
    refine .comment ?_ (ih hahead)
    subst hahead
    cases hw with
    | line hline hpost =>
      rw [← List.append_assoc] at hpost ⊢
      exact .line hline (forall_head_congr (by simp [hv]) hpost)
    | block hfirst => exact .block hfirst

/-- Whether a list begins here depends only on what is taken of it. -/
theorem StartsList.congr {s ahead ahead' : List Char} (hs : RoundsTaken s ahead)
    (hs' : RoundsTaken s ahead') (h : StartsList (s ++ ahead)) : StartsList (s ++ ahead') := by
  cases hs' with
  | nil hends =>
    exact absurd h hs.endsList.not_startsList
  | @plain x s _ hx _ =>
    rcases h with ⟨y, rest, hy, hfirst⟩ | hopens
    · rw [← (List.cons.inj hy).1] at hfirst
      exact Or.inl ⟨x, s ++ ahead', rfl, hfirst⟩
    · exact absurd hopens (not_opensComment_cons (ne_slash_of_isListChar hx) _)
  | @comment w s _ hw _ => exact Or.inr ⟨w, s ++ ahead', List.append_assoc .., hw⟩

theorem RefusesList.congr {s ahead ahead' : List Char} (hs : RoundsTaken s ahead)
    (hs' : RoundsTaken s ahead') (h : RefusesList (s ++ ahead)) : RefusesList (s ++ ahead') := by
  refine ⟨fun hstarts => h.here (hstarts.congr hs' hs), fun rest hrest hstarts => ?_⟩
  have hfirst : ∀ {x : Char} {r : List Char}, ahead' = x :: r → x ≠ ':' := by
    rintro x r hx rfl
    exact absurd (hs'.endsList.head_ok ':' r hx) (by decide)
  -- both colons stand in what is taken
  rcases s with _ | ⟨x, _ | ⟨y, s⟩⟩
  · exact hfirst hrest rfl
  · exact hfirst (List.cons.inj hrest).2 rfl
  · obtain ⟨rfl, hrest'⟩ := List.cons.inj hrest
    obtain ⟨rfl, rfl⟩ := List.cons.inj hrest'
    refine h.behind (s ++ ahead) rfl (StartsList.congr ?_ ?_ hstarts)
    · exact (hs'.of_cons (by decide)).of_cons (by decide)
    · exact (hs.of_cons (by decide)).of_cons (by decide)

theorem TailTaken.of_seam (hseam : Seam pre post post') (hpre : v <:+ pre) {taken : List Char}
    {list : Option (List Char)} (h : TailTaken taken list (v ++ post)) :
    TailTaken taken list (v ++ post') := by
  generalize hahead : v ++ post = ahead at h
  cases h with
  | none hnone =>
    subst hahead
    refine .none fun front rest heq hfront => ?_
    -- the text behind the seam begins with no blank and no colon, so the colon is in front of it
    obtain ⟨y, rest', rfl, hblank, hy⟩ := hseam.head.exists_cons'
    have hmem : y ∉ front ++ [':'] := by
      rw [List.mem_append, List.mem_singleton, not_or]
      refine ⟨fun hmem => ?_, fun hcolon => hy (by simp [hcolon])⟩
      rw [hfront y hmem] at hblank
      exact nomatch hblank
    obtain ⟨v', rfl, rfl⟩ := @exists_of_append_cons v (front ++ [':']) rest y rest'
      (by rw [heq]; simp) hmem
    obtain ⟨hhead, hrefused⟩ := hnone front (v' ++ post) (by simp) hfront
    obtain ⟨hv', hrefused'⟩ := hrefused.of_seam hseam ((List.suffix_append _ v').trans hpre)
    exact ⟨forall_head_congr hv' hhead, hrefused'⟩
  | kept hfront hback hhead hnot hlist =>
    subst hahead
    obtain ⟨hv, hlist'⟩ := hlist.of_seam hseam hpre
    refine .kept hfront hback ?_ (fun hrefused => hnot (hrefused.congr hlist' hlist)) hlist'
    rw [← List.append_assoc] at hhead ⊢
    exact forall_head_congr (by simp [hv]) hhead
  | back hfront hback hhead hrefused hlist =>
    subst hahead
    obtain ⟨hv, hlist'⟩ := hlist.of_seam hseam hpre
    refine .back hfront hback ?_ (hrefused.congr hlist hlist') hlist'
    rw [← List.append_assoc] at hhead ⊢
    exact forall_head_congr (by simp [hv]) hhead

theorem FinalTaken.of_seam (hseam : Seam pre post post') {taken : List Char}
    (h : FinalTaken taken (v ++ post)) : FinalTaken taken (v ++ post') := by
  cases h with
  | none hnone =>
    refine .none fun blanks rest hne hblanks heq => ?_
    obtain ⟨y, rest', rfl, hblank, hy⟩ := hseam.head.exists_cons'
    have hmem : y ∉ blanks ++ "final".toList := by
      rw [List.mem_append, not_or]
      refine ⟨fun hmem => ?_, fun hfinal => hy ?_⟩
      · rw [hblanks y hmem] at hblank
        exact nomatch hblank
      · exact List.mem_cons_of_mem ':' (List.mem_cons_of_mem '*' hfinal)
    obtain ⟨v', rfl, -⟩ := @exists_of_append_cons v (blanks ++ "final".toList) rest y rest'
      (by rw [heq]; simp) hmem
    exact hnone blanks (v' ++ post) hne hblanks (by simp)
  | word hne hblanks => exact .word hne hblanks

/-- **What is taken in front of the seam stays the same.** -/
theorem HeadText.IsTaken.of_seam (hseam : Seam pre post post') (hpre : v <:+ pre) {p : HeadText}
    {list : Option (List Char)} (h : p.IsTaken list (v ++ post)) : p.IsTaken list (v ++ post') := by
  refine ⟨h.blanks_ne_nil, h.blanks_ok, h.name_ok, ?_, ?_, h.tail_ok.of_seam hseam hpre⟩
  · have hends := h.name_ends
    rw [← List.append_assoc, ← List.append_assoc] at hends ⊢
    by_cases hv : p.word ++ p.tail ++ v = []
    · -- the name ends at the seam
      intro x s hx
      rw [hv, List.nil_append] at hends hx
      rw [← Bool.not_eq_true]
      intro hword
      obtain ⟨rest, rfl⟩ := hseam.head.head_eq_of_isWordChar hx hword
      rw [hends x rest rfl] at hword
      exact nomatch hword
    · exact forall_head_congr hv hends
  · have hword := h.word_ok
    rw [← List.append_assoc] at hword ⊢
    exact hword.of_seam hseam

/-- No keyword begins in front of the seam and ends behind it. -/
theorem SeamHead.exists_of_keyword (h : SeamHead pre post post') {u : List Char} (hv : v ≠ [])
    (hpre : u ++ v = pre) {kw : TypeKeyword} {rest : List Char}
    (heq : v ++ post' = kw.text.toList ++ rest) : ∃ v', v = kw.text.toList ++ v' := by
  rcases List.append_eq_append_iff.mp heq with ⟨s, hkw, hrest⟩ | ⟨v', hv', -⟩
  · rcases s with _ | ⟨z, s⟩
    · exact ⟨[], by rw [hkw, List.append_nil, List.append_nil]⟩
    · have hword : ∀ x ∈ v ++ z :: s, isWordChar x = true :=
        fun x hx => isWordChar_of_mem_keyword (hkw ▸ hx)
      cases h with
      | comment _ _ =>
        rw [← (List.cons.inj hrest).1] at hword
        exact absurd (hword '/' (by simp)) (by decide)
      | keyword hnot =>
        -- the last character of `v` belongs to the keyword, so a word ends there
        obtain ⟨v, x, rfl⟩ := List.eq_nil_or_concat v |>.resolve_left hv
        rw [← hpre, List.concat_eq_append, ← List.append_assoc, List.reverse_append] at hnot
        have hx : isWordChar x = true := hword x (by simp)
        have hx' : isWordChar x = false := hnot
        rw [hx] at hx'
        exact nomatch hx'
  · exact ⟨v', hv'⟩

/-- **Where nothing is matched in front of the seam, nothing is matched with the other text.** -/
theorem matchAt?_eq_none_of_seam (hseam : Seam pre post post') {u : List Char} (hv : v ≠ [])
    (hpre : u ++ v = pre) (h : typePattern.matchAt? (Cursor.between u (v ++ post)) = none) :
    typePattern.matchAt? (Cursor.between u (v ++ post')) = none := by
  rcases hm : typePattern.matchAt? (Cursor.between u (v ++ post')) with _ | m
  · rfl
  obtain ⟨hword, p, list, ahead, hrest, hp, -⟩ := exists_isMatch_of_matchAt? hm
  obtain ⟨x, s, hname, hx, -⟩ := hp.name_ok
  have hahead : v ++ post' =
      p.keyword.text.toList ++ (p.blanks ++ x :: (s ++ (p.word ++ (p.tail ++ ahead)))) := by
    rw [← Cursor.rest_between u (v ++ post'), hrest, HeadText.text, hname]
    simp
  -- the keyword and the blanks behind it stand in front of the seam
  obtain ⟨v₁, rfl⟩ := hseam.head.exists_of_keyword hv hpre hahead
  obtain ⟨y, rest', hpost', hblank, -⟩ := hseam.head.exists_cons'
  have hblanks : y ∉ p.blanks := by
    intro hmem
    rw [hp.blanks_ok y hmem] at hblank
    exact absurd hblank (by decide)
  rw [List.append_assoc, hpost'] at hahead
  obtain ⟨v₂, rfl, hbehind⟩ :=
    exists_of_append_cons (List.append_cancel_left hahead) hblanks
  -- and so does the name, or it is the keyword behind the seam
  obtain ⟨t, ht⟩ : ∃ t, v₂ ++ post = x :: t := by
    cases v₂ with
    | nil =>
      obtain ⟨rfl, -⟩ := List.cons.inj hbehind
      exact hseam.head.head_eq_of_isWordChar hpost' (isWordChar_of_isNameStart hx)
    | cons z v₂ => exact ⟨v₂ ++ post, by rw [(List.cons.inj hbehind).1]; rfl⟩
  obtain ⟨q, list', ahead', hq, htaken⟩ :=
    exists_isTaken p.keyword hp.blanks_ne_nil hp.blanks_ok hx t
  have hword' : Cursor.headIsWord u.reverse = false := by simpa using hword
  obtain ⟨m', hm', -⟩ := htaken.exists_matchAt? hword'
  rw [← hq, ← ht, ← List.append_assoc, ← List.append_assoc, List.append_assoc _ p.blanks v₂, h] at hm'
  exact absurd hm'.symm (Option.some_ne_none m')

end Seam
end HeaderSurvey
