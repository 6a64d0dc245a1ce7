import HeaderSurvey.Proofs.Declaration.CommentedList

/-!
# How far a list of bases goes

`RoundsTaken s ahead` says that in front of `ahead` a list of bases goes on with `s` and no further:
`s` falls into comments and characters that may stand in a list, and neither begins behind it.  Every
text falls apart so (`RoundsTaken.exists_append`), and where a list begins at all `baseListPattern`
takes just this (`RoundsTaken.run_baseListPattern`).
-/

namespace HeaderSurvey

open Pattern

/-! ### The rounds of a list -/

/-- A comment begins here. -/
def OpensComment (s : List Char) : Prop :=
  ∃ w post, s = w ++ post ∧ IsComment w post

/-- Nothing that belongs to a list of bases begins here. -/
structure EndsList (s : List Char) : Prop where
  head_ok : ∀ x rest, s = x :: rest → (!"\x7b\x7d;/".toList.contains x) = false
  not_opens : ¬ OpensComment s

/-- In front of `ahead` a list of bases goes on with the first text and with no more. -/
inductive RoundsTaken : List Char → List Char → Prop
  | nil {ahead : List Char} : EndsList ahead → RoundsTaken [] ahead
  | plain {x : Char} {s ahead : List Char} : (!"\x7b\x7d;/".toList.contains x) = true →
      RoundsTaken s ahead → RoundsTaken (x :: s) ahead
  | comment {w s ahead : List Char} : IsComment w (s ++ ahead) → RoundsTaken s ahead →
      RoundsTaken (w ++ s) ahead

theorem OpensComment.exists_cons {s : List Char} (h : OpensComment s) : ∃ rest, s = '/' :: rest := by
  obtain ⟨w, post, rfl, hw⟩ := h
  obtain ⟨w', rfl⟩ := hw.exists_cons
  exact ⟨w' ++ post, rfl⟩

/-- A character that may stand in a list is no slash, so it begins no comment. -/
theorem not_opensComment_cons {x : Char} (hx : x ≠ '/') (s : List Char) :
    ¬ OpensComment (x :: s) := by
  intro h
  obtain ⟨rest, hrest⟩ := h.exists_cons
  exact hx (List.cons.inj hrest).1

theorem ne_slash_of_isListChar {x : Char} (hx : (!"\x7b\x7d;/".toList.contains x) = true) :
    x ≠ '/' := by
  rintro rfl
  exact absurd hx (by decide)

namespace RoundsTaken

variable {s ahead : List Char}

/-- Every text falls into what a list goes on with and the rest. -/
theorem exists_append (text : List Char) : ∃ s ahead, text = s ++ ahead ∧ RoundsTaken s ahead := by
  induction hn : text.length using Nat.strongRecOn generalizing text with
  | _ n ih =>
    subst hn
    by_cases hcomment : OpensComment text
    · obtain ⟨w, post, rfl, hw⟩ := hcomment
      obtain ⟨w', hw'⟩ := hw.exists_cons
      have hlen : post.length < (w ++ post).length := by
        rw [hw', List.cons_append, List.length_cons, List.length_append]
        omega
      obtain ⟨s, ahead, rfl, hs⟩ := ih _ hlen post rfl
      exact ⟨w ++ s, ahead, (List.append_assoc ..).symm, .comment hw hs⟩
    · rcases text with _ | ⟨x, text⟩
      · exact ⟨[], [], rfl, .nil ⟨by simp, hcomment⟩⟩
      · rcases hx : (!"\x7b\x7d;/".toList.contains x) with _ | _
        · exact ⟨[], x :: text, rfl, .nil ⟨Text.forall_head hx, hcomment⟩⟩
        · obtain ⟨s, ahead, rfl, hs⟩ := ih text.length (by simp) text rfl
          exact ⟨x :: s, ahead, rfl, .plain hx hs⟩

theorem endsList (h : RoundsTaken s ahead) : EndsList ahead := by
  induction h with
  | nil hends => exact hends
  | plain _ _ ih => exact ih
  | comment _ _ ih => exact ih

/-- Behind a character that is no slash the rest is taken in the same way. -/
theorem of_cons {x : Char} (h : RoundsTaken (x :: s) ahead) (hx : x ≠ '/') : RoundsTaken s ahead := by
  generalize htext : x :: s = text at h
  cases h with
  | nil _ => exact nomatch htext
  | plain _ hs =>
    obtain ⟨-, rfl⟩ := List.cons.inj htext
    exact hs
  | @comment w s' _ hw _ =>
    obtain ⟨w', rfl⟩ := hw.exists_cons
    exact absurd (List.cons.inj htext).1 hx

/-- **What a list goes on with is taken**, if what follows always succeeds. -/
theorem runStar_eq {pre budget : List Char} {g : Captures}
    {k : Cursor → Captures → Option MatchEnd} (h : RoundsTaken s ahead) (hk : Succeeds k)
    (hlen : s.length ≤ budget.length) :
    runStar (one (!"\x7b\x7d;/".toList.contains ·) <|> commentPattern).run budget
        (Cursor.between pre (s ++ ahead)) g k =
      k (Cursor.between (pre ++ s) ahead) g := by
  induction h generalizing pre budget with
  | @nil ahead hends =>
    rw [List.append_nil]
    cases budget with
    | nil => rfl
    | cons y budget =>
      -- neither a character of a list nor a comment begins here
      have hone : (one (!"\x7b\x7d;/".toList.contains ·)).run (Cursor.between pre ahead) g
          (fun c g => runStar (one (!"\x7b\x7d;/".toList.contains ·) <|> commentPattern).run budget c g
            k) = none := by
        rcases ahead with _ | ⟨x, ahead⟩
        · rfl
        · exact run_one_of_ne (hends.head_ok x ahead rfl)
      have hround : (one (!"\x7b\x7d;/".toList.contains ·) <|> commentPattern).run
          (Cursor.between pre ahead) g (fun c g =>
            runStar (one (!"\x7b\x7d;/".toList.contains ·) <|> commentPattern).run budget c g k) =
          none := by
        rw [run_either_of_none hone, Option.eq_none_iff_forall_ne_some]
        intro o ho
        obtain ⟨w, post, rfl, hw, -⟩ := (run_commentPattern_eq_some_iff (hk.rounds _ budget)).mp ho
        exact hends.not_opens ⟨w, post, rfl, hw⟩
      rw [runStar, List.nil_append, hround]
  | @plain x s ahead hx _ ih =>
    cases budget with
    | nil => exact absurd hlen (by simp)
    | cons y budget =>
      have hrest := @ih (pre ++ [x]) budget (Nat.le_of_succ_le_succ hlen)
      obtain ⟨o, ho⟩ := hk (Cursor.between (pre ++ x :: s) ahead) g
      rw [List.append_assoc, List.singleton_append, ho] at hrest
      rw [runStar, List.cons_append, run_round_plain (hk.rounds _ budget) hx, hrest, ho]
  | @comment w s ahead hw _ ih =>
    obtain ⟨w', hw'⟩ := hw.exists_cons
    cases budget with
    | nil => exact absurd hlen (by simp [hw'])
    | cons y budget =>
      have hless : s.length ≤ budget.length := by
        rw [hw', List.length_append, List.length_cons, List.length_cons] at hlen
        omega
      have hrest := @ih (pre ++ w) budget hless
      obtain ⟨o, ho⟩ := hk (Cursor.between (pre ++ (w ++ s)) ahead) g
      rw [List.append_assoc, ho] at hrest
      rw [runStar, List.append_assoc, run_round_comment (hk.rounds _ budget) (by decide) hw, hrest,
        ho]

end RoundsTaken

/-! ### The list -/

/-- A list of bases begins here, without colons in front. -/
def StartsList (s : List Char) : Prop :=
  (∃ x rest, s = x :: rest ∧ (!":\x7b\x7d;/".toList.contains x) = true) ∨ OpensComment s

theorem not_startsList_colon (s : List Char) : ¬ StartsList (':' :: s) := by
  rintro (⟨x, rest, hx, hfirst⟩ | hopens)
  · rw [← (List.cons.inj hx).1] at hfirst
    exact absurd hfirst (by decide)
  · exact not_opensComment_cons (by decide) s hopens

theorem EndsList.not_startsList {s : List Char} (h : EndsList s) : ¬ StartsList s := by
  rintro (⟨x, rest, hx, hfirst⟩ | hopens)
  · -- a character that may come first may also come later
    have hlater := h.head_ok x rest hx
    simp only [Bool.not_eq_true', Bool.not_eq_false', List.contains_eq_mem,
      decide_eq_false_iff_not, decide_eq_true_eq] at hfirst hlater
    exact absurd (List.mem_cons_of_mem ':' hlater) hfirst
  · exact h.not_opens hopens

/-- Neither here nor behind two colons a list of bases begins. -/
structure RefusesList (s : List Char) : Prop where
  here : ¬ StartsList s
  behind : ∀ rest, s = ':' :: ':' :: rest → ¬ StartsList rest

section Run

variable {pre s ahead : List Char} {g : Captures} {k : Cursor → Captures → Option MatchEnd}

theorem startsList_of_isBlank {b : Char} (hb : isBlank b = true) (s : List Char) :
    StartsList (b :: s) :=
  Or.inl ⟨b, s, rfl, not_contains_of_class (by decide) hb⟩

theorem run_baseListTail_eq_none_of_not_startsList (hk : Succeeds k) (h : ¬ StartsList s) :
    baseListTail.run (Cursor.between pre s) g k = none := by
  rw [Option.eq_none_iff_forall_ne_some]
  intro o ho
  rw [baseListTail, run_seq] at ho
  rcases run_plain_or_comment (hk.star _) ho with ⟨x, post, rfl, hx, -⟩ | ⟨w, post, rfl, hw, -⟩
  · exact h (Or.inl ⟨x, post, rfl, hx⟩)
  · exact h (Or.inr ⟨w, post, rfl, hw⟩)

/-- Where a list begins it is taken as far as it goes. -/
theorem RoundsTaken.run_baseListTail (h : RoundsTaken s ahead) (hk : Succeeds k)
    (hstarts : StartsList (s ++ ahead)) :
    baseListTail.run (Cursor.between pre (s ++ ahead)) g k =
      k (Cursor.between (pre ++ s) ahead) g := by
  rw [baseListTail, run_seq]
  have hstar : ∀ {pre s}, RoundsTaken s ahead →
      (star (one (!"\x7b\x7d;/".toList.contains ·) <|> commentPattern)).run
          (Cursor.between pre (s ++ ahead)) g k = k (Cursor.between (pre ++ s) ahead) g := by
    intro pre s hs
    rw [run_star]
    exact hs.runStar_eq hk (by simp)
  cases h with
  | nil hends => exact absurd hstarts hends.not_startsList
  | @plain x s _ hx hs =>
    have hfirst : (!":\x7b\x7d;/".toList.contains x) = true := by
      rcases hstarts with ⟨y, rest, hy, hfirst⟩ | hopens
      · rwa [(List.cons.inj hy).1]
      · exact absurd hopens (not_opensComment_cons (ne_slash_of_isListChar hx) _)
    rw [List.cons_append, run_round_plain (hk.star _) hfirst, hstar hs, List.append_assoc,
      List.singleton_append]
  | @comment w s _ hw hs =>
    rw [List.append_assoc, run_round_comment (hk.star _) (by decide) hw, hstar hs,
      List.append_assoc]

theorem run_colons_eq_none (h : ∀ rest, s ≠ ':' :: ':' :: rest) :
    (lit "::").run (Cursor.between pre s) g k = none :=
  run_literal_eq_none h

theorem run_colons (s : List Char) :
    (lit "::").run (Cursor.between pre (':' :: ':' :: s)) g k =
      k (Cursor.between (pre ++ [':', ':']) s) g :=
  @run_literal_between g k pre [':', ':'] s

/-- Where a list is refused, nothing is taken. -/
theorem RefusesList.run_eq_none (h : RefusesList s) (hk : Succeeds k) :
    baseListPattern.run (Cursor.between pre s) g k = none := by
  have hhere := @run_baseListTail_eq_none_of_not_startsList pre s g k hk h.here
  rw [run_baseListPattern_eq]
  by_cases hcolons : ∃ rest, s = ':' :: ':' :: rest
  · obtain ⟨rest, rfl⟩ := hcolons
    rw [run_optional_of_none, hhere]
    rw [run_colons]
    exact run_baseListTail_eq_none_of_not_startsList hk (h.behind rest rfl)
  · push Not at hcolons
    rw [run_optional_of_none (run_colons_eq_none hcolons), hhere]

/-- Where a list is not refused, it is taken as far as it goes. -/
theorem RoundsTaken.run_baseListPattern (h : RoundsTaken s ahead) (hk : Succeeds k)
    (hnot : ¬ RefusesList (s ++ ahead)) :
    baseListPattern.run (Cursor.between pre (s ++ ahead)) g k =
      k (Cursor.between (pre ++ s) ahead) g := by
  by_cases hcolons : ∃ rest, s ++ ahead = ':' :: ':' :: rest
  · obtain ⟨rest, hrest⟩ := hcolons
    have hstarts : StartsList rest := by
      by_contra hstarts
      refine hnot ⟨?_, fun rest' hrest' => ?_⟩
      · rw [hrest]
        exact not_startsList_colon _
      · rw [hrest] at hrest'
        rwa [← (List.cons.inj (List.cons.inj hrest').2).2]
    -- both colons belong to the list
    obtain ⟨s, rfl⟩ : ∃ s', s = ':' :: ':' :: s' := by
      have hfirst : ∀ {x : Char} {r : List Char}, ahead = x :: r → x ≠ ':' := by
        rintro x r hx rfl
        exact absurd (h.endsList.head_ok ':' r hx) (by decide)
      rcases s with _ | ⟨x, _ | ⟨y, s⟩⟩
      · exact absurd rfl (hfirst hrest)
      · exact absurd rfl (hfirst (List.cons.inj hrest).2)
      · obtain ⟨rfl, hlater⟩ := List.cons.inj hrest
        exact ⟨s, by rw [(List.cons.inj hlater).1]⟩
    obtain rfl : s ++ ahead = rest := (List.cons.inj (List.cons.inj hrest).2).2
    have htail := @RoundsTaken.run_baseListTail (pre ++ [':', ':']) s ahead g k
      ((h.of_cons (by decide)).of_cons (by decide)) hk hstarts
    obtain ⟨o, ho⟩ := hk (Cursor.between (pre ++ ':' :: ':' :: s) ahead) g
    rw [List.append_assoc] at htail
    rw [ho, run_baseListPattern_eq]
    apply run_optional_of_some
    rw [List.cons_append, List.cons_append, run_colons, htail]
    exact ho
  · push Not at hcolons
    have hstarts : StartsList (s ++ ahead) := by
      by_contra hstarts
      exact hnot ⟨hstarts, fun rest hrest => absurd hrest (hcolons rest)⟩
    rw [run_baseListPattern_eq, run_optional_of_none (run_colons_eq_none hcolons),
      h.run_baseListTail hk hstarts]

end Run

end HeaderSurvey
