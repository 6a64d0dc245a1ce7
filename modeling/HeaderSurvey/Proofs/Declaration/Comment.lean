import HeaderSurvey.Proofs.Declaration.BaseList
import HeaderSurvey.Proofs.Pattern.Settled

/-!
# Comments in lists of bases

Two patterns meet the comments of a list of bases: the pattern of the types passes over them, and
the pattern of the comments finds them again in what the first has taken.  `Uncommented s t` says
that `s` falls into comments and other characters, and that `t` is left of it with a blank for each
comment.  What is taken as a list of bases falls apart so (`exists_uncommented_of_run`), and the
second pattern cuts it at the same places (`Uncommented.replaceAll_eq`).
-/

namespace HeaderSurvey

open Pattern

/-! ### What a comment is -/

/-- A comment in front of a text: to the end of its line, or to the first closing mark. -/
inductive IsComment : List Char → List Char → Prop
  | line {s post : List Char} : '\n' ∉ s → (∀ x rest, post = x :: rest → x = '\n') →
      IsComment ('/' :: '/' :: s) post
  | block {s post : List Char} : EndsFirst ['*', '/'] s →
      IsComment ('/' :: '*' :: (s ++ ['*', '/'])) post

theorem IsComment.exists_cons {w post : List Char} (h : IsComment w post) :
    ∃ s, w = '/' :: s := by
  cases h with
  | line _ _ => exact ⟨_, rfl⟩
  | block _ => exact ⟨_, rfl⟩

/-- Every text falls into its first line and what is behind. -/
theorem exists_line (s : List Char) :
    ∃ u post, s = u ++ post ∧ '\n' ∉ u ∧ ∀ x rest, post = x :: rest → x = '\n' := by
  rcases Text.forall_or_exists_first (· ≠ '\n') s with h | ⟨u, x, post, rfl, hu, hx⟩
  · refine ⟨s, [], (List.append_nil s).symm, ?_, by simp⟩
    intro hmem
    simpa using h _ hmem
  · refine ⟨u, x :: post, rfl, ?_, ?_⟩
    · intro hmem
      simpa using hu _ hmem
    · intro y rest heq
      obtain ⟨rfl, -⟩ := List.cons.inj heq
      simpa using hx

/-- A comment in front of a text is one in front of its beginnings. -/
theorem IsComment.of_append {w s post : List Char} (h : IsComment w (s ++ post)) :
    IsComment w s := by
  cases h with
  | line hline hpost =>
    refine .line hline fun x rest hs => hpost x (rest ++ post) ?_
    rw [hs, List.cons_append]
  | block hfirst => exact .block hfirst

/-! ### The pattern of the comments -/

section Run

variable {pre post : List Char} {g : Captures} {k : Cursor → Captures → Option MatchEnd}
  {o : MatchEnd}

/-- Behind two slashes the rest of the line is taken. -/
theorem run_commentPattern_line (hk : Succeeds k) {s : List Char} (hs : '\n' ∉ s)
    (hpost : ∀ x rest, post = x :: rest → x = '\n') :
    commentPattern.run (Cursor.between pre ('/' :: '/' :: (s ++ post))) g k =
      k (Cursor.between (pre ++ '/' :: '/' :: s) post) g := by
  obtain ⟨o, ho⟩ := hk (Cursor.between (pre ++ '/' :: '/' :: s) post) g
  rw [ho]
  apply run_either_of_some
  have hlit : lit "//" = literal ['/', '/'] := rfl
  have hline : ∀ x ∈ s, decide (x ≠ '\n') = true := by
    intro x hx
    rw [decide_eq_true_eq]
    rintro rfl
    exact hs hx
  have hend : ∀ x rest, post = x :: rest → decide (x ≠ '\n') = false := by
    intro x rest hx
    rw [hpost x rest hx]
    rfl
  rw [run_seq, hlit]
  refine (@run_literal_between g _ pre ['/', '/'] (s ++ post)).trans ?_
  rw [run_many_eq hk hline hend, List.append_assoc]
  exact ho

/-- Behind a slash and a star everything up to the first closing mark is taken. -/
theorem run_commentPattern_block {rest : List Char} :
    commentPattern.run (Cursor.between pre ('/' :: '*' :: rest)) g k =
      (lazyStar (one fun _ => true) ++ literal ['*', '/']).run
        (Cursor.between (pre ++ ['/', '*']) rest) g k := by
  have hnone : (lit "//" ++ many (· ≠ '\n')).run (Cursor.between pre ('/' :: '*' :: rest)) g k =
      none := by
    rw [run_seq]
    exact run_literal_eq_none fun post h => by simp at h
  refine (run_either_of_none hnone).trans ?_
  rw [run_seq, run_seq]
  exact @run_literal_between g _ pre ['/', '*'] rest

/-- No comment begins where neither of the two marks stands. -/
theorem run_commentPattern_eq_none {rest : List Char} (hline : ∀ s, rest ≠ '/' :: '/' :: s)
    (hblock : ∀ s, rest ≠ '/' :: '*' :: s) :
    commentPattern.run (Cursor.between pre rest) g k = none := by
  have hnone : (lit "//" ++ many (· ≠ '\n')).run (Cursor.between pre rest) g k = none := by
    rw [run_seq]
    exact run_literal_eq_none hline
  refine (run_either_of_none hnone).trans ?_
  rw [run_seq, run_seq]
  exact run_literal_eq_none hblock

/-- **The pattern takes a comment and nothing else**, if what follows always succeeds. -/
theorem run_commentPattern_eq_some_iff (hk : Succeeds k) {rest : List Char} :
    commentPattern.run (Cursor.between pre rest) g k = some o ↔
      ∃ w post, rest = w ++ post ∧ IsComment w post ∧
        k (Cursor.between (pre ++ w) post) g = some o := by
  constructor
  · intro h
    by_cases hline : ∃ s, rest = '/' :: '/' :: s
    · obtain ⟨s, rfl⟩ := hline
      obtain ⟨u, post, rfl, hu, hpost⟩ := exists_line s
      rw [run_commentPattern_line hk hu hpost] at h
      exact ⟨'/' :: '/' :: u, post, rfl, .line hu hpost, h⟩
    · by_cases hblock : ∃ s, rest = '/' :: '*' :: s
      · obtain ⟨s, rfl⟩ := hblock
        rw [run_commentPattern_block] at h
        obtain ⟨w, post, rfl, hfirst, ho⟩ := (run_until_eq_some_iff hk (by simp)).mp h
        refine ⟨'/' :: '*' :: (w ++ ['*', '/']), post, rfl, .block hfirst, ?_⟩
        simpa using ho
      · push Not at hline hblock
        rw [run_commentPattern_eq_none hline hblock] at h
        exact nomatch h
  · rintro ⟨w, post, rfl, hw, ho⟩
    cases hw with
    | line hs hpost => exact (run_commentPattern_line hk hs hpost).trans ho
    | @block s _ hfirst =>
      rw [List.cons_append, List.cons_append, run_commentPattern_block]
      refine (run_until_eq_some_iff hk (by simp)).mpr ⟨s, post, rfl, hfirst, ?_⟩
      simpa using ho

/-- A comment is matched as a whole. -/
theorem matchAt?_commentPattern {w : List Char} (pre : List Char) (hw : IsComment w post) :
    commentPattern.matchAt? (Cursor.between pre (w ++ post)) =
      some ⟨Cursor.between pre (w ++ post), Cursor.between (pre ++ w) post, []⟩ :=
  matchAt?_of_run ((run_commentPattern_eq_some_iff succeeds_some).mpr ⟨w, post, rfl, hw, rfl⟩)

/-- No comment begins at a character that is no slash. -/
theorem matchAt?_commentPattern_eq_none (pre : List Char) {x : Char} (hx : x ≠ '/')
    (s : List Char) : commentPattern.matchAt? (Cursor.between pre (x :: s)) = none :=
  matchAt?_eq_none_of_way fun _ _ =>
    not_way_commentPattern fun _ hrest => hx (List.cons.inj hrest).1

end Run

/-! ### Texts with comments -/

/-- The first text falls into comments and characters that may stand in a list of bases, and the
second is left of it with a blank for each comment. -/
inductive Uncommented : List Char → List Char → Prop
  | nil : Uncommented [] []
  | plain {x : Char} {s t : List Char} : (!"\x7b\x7d;/".toList.contains x) = true →
      Uncommented s t → Uncommented (x :: s) (x :: t)
  | comment {w s t : List Char} : IsComment w s → Uncommented s t →
      Uncommented (w ++ s) (' ' :: t)

/-- No brace, semicolon or slash is left. -/
theorem Uncommented.isListChar_of_mem {s t : List Char} (h : Uncommented s t) {x : Char}
    (hx : x ∈ t) : (!"\x7b\x7d;/".toList.contains x) = true := by
  induction h with
  | nil => exact absurd hx List.not_mem_nil
  | plain hplain _ ih =>
    rcases List.mem_cons.mp hx with rfl | hx
    · exact hplain
    · exact ih hx
  | comment _ _ ih =>
    rcases List.mem_cons.mp hx with rfl | hx
    · decide
    · exact ih hx

/-- **The pattern of the comments finds those that the text falls into**, and puts a blank in the
place of each. -/
theorem Uncommented.replaceFrom_eq {s t : List Char} (h : Uncommented s t) (pre : List Char) :
    commentPattern.replaceFrom [' '] (Cursor.between pre s) = t := by
  induction h generalizing pre with
  | nil => exact replaceFrom_nil ..
  | @plain x s t hx _ ih =>
    have hslash : x ≠ '/' := by
      rintro rfl
      simp at hx
    rw [replaceFrom_cons [' '] (matchAt?_commentPattern_eq_none pre hslash s), ih]
  | @comment w s t hw _ ih =>
    obtain ⟨w', rfl⟩ := hw.exists_cons
    have hlt := Cursor.between_lt_between pre s (List.cons_ne_nil '/' w')
    rw [replaceFrom_of_matchAt? [' '] (matchAt?_commentPattern pre hw) hlt, ih]
    rfl

/-- The bases of a list are those of the list without its comments. -/
theorem Uncommented.parseBases_eq {s t : List Char} (h : Uncommented s t) :
    parseBases s = parseBases t := by
  have hslash : '/' ∉ t := fun hmem => absurd (h.isListChar_of_mem hmem) (by decide)
  rw [parseBases, parseBases, replaceAll_commentPattern hslash, replaceAll_eq_replaceFrom,
    h.replaceFrom_eq]

/-! ### Both patterns cut at the same places -/

section Cut

variable {pre rest : List Char} {g : Captures} {k : Cursor → Captures → Option MatchEnd}
  {o : MatchEnd}

/-- One round takes a character of a class, or a comment. -/
theorem run_plain_or_comment (hk : Succeeds k) {p : Char → Bool}
    (h : (one p <|> commentPattern).run (Cursor.between pre rest) g k = some o) :
    (∃ x post, rest = x :: post ∧ p x = true ∧ k (Cursor.between (pre ++ [x]) post) g = some o) ∨
      ∃ w post, rest = w ++ post ∧ IsComment w post ∧
        k (Cursor.between (pre ++ w) post) g = some o := by
  rw [run_either] at h
  split at h
  · next o' hone =>
    left
    cases rest with
    | nil => exact nomatch hone
    | cons x post =>
      have hx : p x = true := by
        by_contra hx
        rw [run_one_of_ne (by simpa using hx)] at hone
        exact nomatch hone
      rw [run_one_between hx, h] at hone
      exact ⟨x, post, rfl, hx, hone⟩
  · exact Or.inr ((run_commentPattern_eq_some_iff hk).mp h)

/-- The rounds take a text that falls into comments and characters of a list. -/
theorem exists_uncommented_of_runStar (hk : Succeeds k) {budget : List Char}
    (h : runStar (one (!"\x7b\x7d;/".toList.contains ·) <|> commentPattern).run budget
      (Cursor.between pre rest) g k = some o) :
    ∃ s t post, rest = s ++ post ∧ Uncommented s t ∧
      k (Cursor.between (pre ++ s) post) g = some o := by
  induction budget generalizing pre rest with
  | nil => exact ⟨[], [], rest, rfl, .nil, by rw [List.append_nil]; exact h⟩
  | cons y budget ih =>
    rw [runStar] at h
    split at h
    · next o' hround =>
      rw [h] at hround
      rcases run_plain_or_comment (hk.rounds _ budget) hround with
        ⟨x, tail, rfl, hx, hrest⟩ | ⟨w, tail, rfl, hw, hrest⟩
      · obtain ⟨s, t, post, rfl, hst, ho⟩ := ih hrest
        refine ⟨x :: s, x :: t, post, rfl, .plain hx hst, ?_⟩
        rw [← ho, List.append_assoc, List.singleton_append]
      · obtain ⟨s, t, post, rfl, hst, ho⟩ := ih hrest
        refine ⟨w ++ s, ' ' :: t, post, (List.append_assoc ..).symm, .comment hw.of_append hst, ?_⟩
        rw [← ho, List.append_assoc]
    · exact ⟨[], [], rest, rfl, .nil, by rw [List.append_nil]; exact h⟩

/-- The same behind the colons that the list may begin with: there stands at least one character or
comment. -/
theorem exists_uncommented_of_runTail (hk : Succeeds k)
    (h : ((one (!":\x7b\x7d;/".toList.contains ·) <|> commentPattern) ++
      star (one (!"\x7b\x7d;/".toList.contains ·) <|> commentPattern)).run
        (Cursor.between pre rest) g k = some o) :
    ∃ s t post, rest = s ++ post ∧ Uncommented s t ∧
      k (Cursor.between (pre ++ s) post) g = some o := by
  rw [run_seq] at h
  rcases run_plain_or_comment (hk.star _) h with ⟨x, tail, rfl, hx, hrest⟩ | ⟨w, tail, rfl, hw, hrest⟩
  · have hx' : (!"\x7b\x7d;/".toList.contains x) = true := by
      simp only [Bool.not_eq_true', List.contains_eq_mem, decide_eq_false_iff_not] at hx ⊢
      exact fun hmem => hx (List.mem_cons_of_mem ':' hmem)
    obtain ⟨s, t, post, rfl, hst, ho⟩ := exists_uncommented_of_runStar hk hrest
    refine ⟨x :: s, x :: t, post, rfl, .plain hx' hst, ?_⟩
    rw [← ho, List.append_assoc, List.singleton_append]
  · obtain ⟨s, t, post, rfl, hst, ho⟩ := exists_uncommented_of_runStar hk hrest
    refine ⟨w ++ s, ' ' :: t, post, (List.append_assoc ..).symm, .comment hw.of_append hst, ?_⟩
    rw [← ho, List.append_assoc]

/-- **A list of bases falls into comments and other characters**: so it is taken by the pattern of
the types. -/
theorem exists_uncommented_of_run (hk : Succeeds k) {c : Cursor}
    (h : baseListPattern.run c g k = some o) :
    ∃ d t, c ≤ d ∧ Uncommented (c.upTo d) t ∧ k d g = some o := by
  obtain ⟨pre, rest, rfl⟩ : ∃ pre rest, c = Cursor.between pre rest :=
    ⟨_, _, (Cursor.between_self c).symm⟩
  have htaken : ∃ s t post, rest = s ++ post ∧ Uncommented s t ∧
      k (Cursor.between (pre ++ s) post) g = some o := by
    rw [baseListPattern, run_seq, run_seq] at h
    rcases run_or_of_run_optional h with hcolons | htail
    · obtain ⟨tail, rfl, htail⟩ := exists_of_run_literal hcolons
      obtain ⟨s, t, post, rfl, hst, ho⟩ := exists_uncommented_of_runTail hk htail
      refine ⟨':' :: ':' :: s, ':' :: ':' :: t, post, rfl, ?_, ?_⟩
      · exact .plain (by decide) (.plain (by decide) hst)
      · rw [← ho, List.append_assoc]
        rfl
    · exact exists_uncommented_of_runTail hk htail
  obtain ⟨s, t, post, rfl, hst, ho⟩ := htaken
  refine ⟨Cursor.between (pre ++ s) post, t, Cursor.between_le_between pre s post, ?_, ho⟩
  rw [Cursor.upTo_between]
  exact hst

end Cut
end HeaderSurvey
