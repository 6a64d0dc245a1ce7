import HeaderSurvey.Proofs.Declaration.HeadTaken
import HeaderSurvey.Proofs.Declaration.WrittenBases

/-!
# A comment in a list of bases

A comment is put into a list of bases, next to a blank and outside of the comments that are there
already.  The list is taken with the comment as it is without it, and has the same names
(`TailTaken.exists_insert`).

The comment counts as a blank, and how many blanks stand side by side changes no name
(`map_baseName_splitBases_blanks`).
-/

namespace HeaderSurvey

open Pattern

/-! ### Blanks side by side -/

/-- What holds no comma and no bracket stays in one piece. -/
theorem exists_splitBases_between (depth : Nat) (s t : List Char) :
    ∃ before a b after, ∀ u : List Char, (∀ x ∈ u, isListMark x = false) →
      splitBases depth (s ++ (u ++ t)) = before ++ (a ++ (u ++ b)) :: after := by
  induction s generalizing depth with
  | nil =>
    obtain ⟨b, after, hpieces⟩ := List.exists_cons_of_ne_nil (splitBases_ne_nil depth t)
    refine ⟨[], [], b, after, fun u hu => ?_⟩
    have hclosed : ∀ v, v <+: u → bracketDepth v = 0 := fun v hv =>
      (closed_of_isListMark fun x hx => hu x (hv.subset hx)).brackets.eq_zero
    have hwhole : splitBases depth (u ++ t) = (u ++ b) :: after := by
      refine splitBases_append (fun v hv => ?_) (fun v hv => ?_) ?_ hpieces
      · rw [hclosed v hv]
        omega
      · exact absurd (hu ',' (hv.subset (by simp))) (by decide)
      · rw [hclosed u (List.prefix_refl u)]
        omega
    exact hwhole
  | cons c s ih =>
    by_cases hc : c = ',' ∧ depth = 0
    · obtain ⟨before, a, b, after, hpieces⟩ := ih 0
      refine ⟨[] :: before, a, b, after, fun u hu => ?_⟩
      rw [List.cons_append, splitBases, if_pos hc, hpieces u hu, List.cons_append]
    · obtain ⟨before, a, b, after, hpieces⟩ := ih (if c = '<' ∨ c = '(' then depth + 1
        else if c = '>' ∨ c = ')' then depth - 1 else depth)
      -- the character belongs to the first piece, which may be the one with `u`
      cases before with
      | nil =>
        refine ⟨[], c :: a, b, after, fun u hu => ?_⟩
        rw [List.cons_append, splitBases, if_neg hc]
        dsimp only
        rw [hpieces u hu]
        rfl
      | cons piece before =>
        refine ⟨(c :: piece) :: before, a, b, after, fun u hu => ?_⟩
        rw [List.cons_append, splitBases, if_neg hc]
        dsimp only
        rw [hpieces u hu]
        rfl

/-- Blanks part the words, however many they are. -/
theorem words_append_append_blanks {u : List Char} (hne : u ≠ []) (hu : ∀ x ∈ u, isBlank x = true)
    (s t : List Char) : Text.words (s ++ (u ++ t)) = Text.words s ++ Text.words t := by
  obtain ⟨x, u, rfl⟩ := List.exists_cons_of_ne_nil hne
  obtain ⟨hx, hu⟩ := List.forall_mem_cons.mp hu
  rw [List.cons_append, Text.words_append_cons hx, Text.words_blanks_append hu]

/-- **How many blanks stand side by side changes no name.** -/
theorem map_baseName_splitBases_blanks {u u' : List Char} (hne : u ≠ []) (hne' : u' ≠ [])
    (hu : ∀ x ∈ u, isBlank x = true) (hu' : ∀ x ∈ u', isBlank x = true) (s t : List Char) :
    (splitBases 0 (s ++ (u ++ t))).map baseName = (splitBases 0 (s ++ (u' ++ t))).map baseName := by
  obtain ⟨before, a, b, after, hpieces⟩ := exists_splitBases_between 0 s t
  have hname : ∀ {v : List Char}, v ≠ [] → (∀ x ∈ v, isBlank x = true) →
      baseName (a ++ (v ++ b)) =
        ((Text.words a ++ Text.words b).filter (!accessWords.contains ·)).flatten := by
    intro v hv hblank
    rw [baseName, words_append_append_blanks hv hblank]
  rw [hpieces u fun x hx => isListMark_of_isBlank (hu x hx),
    hpieces u' fun x hx => isListMark_of_isBlank (hu' x hx)]
  simp only [List.map_append, List.map_cons, hname hne hu, hname hne' hu']

/-- A blank stands in front of a place, or behind it. -/
def AtBlank (s t : List Char) : Prop :=
  (∃ b ∈ s.getLast?, isBlank b = true) ∨ ∃ b ∈ t.head?, isBlank b = true

/-- More blanks next to a blank change no name. -/
theorem map_baseName_splitBases_insert {blanks s t : List Char}
    (hblanks : ∀ x ∈ blanks, isBlank x = true) (h : AtBlank s t) :
    (splitBases 0 (s ++ (blanks ++ t))).map baseName = (splitBases 0 (s ++ t)).map baseName := by
  rcases h with ⟨b, hlast, hb⟩ | ⟨b, hhead, hb⟩
  · obtain ⟨s, rfl⟩ := List.getLast?_eq_some_iff.mp hlast
    have hall : ∀ x ∈ b :: blanks, isBlank x = true := List.forall_mem_cons.mpr ⟨hb, hblanks⟩
    have hone : ∀ x ∈ [b], isBlank x = true := List.forall_mem_singleton.mpr hb
    have hnames := map_baseName_splitBases_blanks (List.cons_ne_nil b blanks) (List.cons_ne_nil b [])
      hall hone s t
    simpa using hnames
  · obtain ⟨t, rfl⟩ := List.head?_eq_some_iff.mp hhead
    have hall : ∀ x ∈ blanks ++ [b], isBlank x = true :=
      List.forall_mem_append.mpr ⟨hblanks, List.forall_mem_singleton.mpr hb⟩
    have hone : ∀ x ∈ [b], isBlank x = true := List.forall_mem_singleton.mpr hb
    have hnames := map_baseName_splitBases_blanks (by simp) (List.cons_ne_nil b []) hall hone s t
    simpa using hnames

/-! ### Commented texts -/

/-- Two comments at one place are the same. -/
theorem IsComment.unique {w w' post post' : List Char} (h : IsComment w post)
    (h' : IsComment w' post') (heq : w ++ post = w' ++ post') : w = w' := by
  have hm := matchAt?_commentPattern [] h
  rw [heq, matchAt?_commentPattern [] h'] at hm
  have hstop := congrArg (fun m => m.map fun m => m.stop.before.reverse) hm
  simpa using hstop.symm

namespace Commented

variable {s s' t t' : List Char}

theorem exists_of_comment {w : List Char} (hw : ∀ post, IsComment w (s ++ post))
    (h : Commented (w ++ s) t) : ∃ t', t = ' ' :: t' ∧ Commented s t' := by
  obtain ⟨w', hw'⟩ := (hw []).exists_cons
  generalize htext : w ++ s = text at h
  cases h with
  | nil =>
    rw [hw'] at htext
    exact nomatch htext
  | @plain x s' t' hx hrest =>
    rw [hw'] at htext
    obtain ⟨rfl, -⟩ := List.cons.inj htext
    exact absurd rfl (ne_slash_of_isListChar hx)
  | @comment w' s' t' hcomment hrest =>
    have hhere := hw []
    have hthere := hcomment []
    rw [List.append_nil] at hhere hthere
    obtain rfl := hhere.unique hthere htext
    obtain rfl := List.append_cancel_left htext
    exact ⟨t', rfl, hrest⟩

/-- What stands behind a commented beginning is commented. -/
theorem exists_of_append_commented (h : Commented s t) (hwhole : Commented (s ++ s') t') :
    ∃ t'', t' = t ++ t'' ∧ Commented s' t'' := by
  induction h generalizing t' with
  | nil => exact ⟨t', rfl, hwhole⟩
  | plain hx _ ih =>
    obtain ⟨t', rfl, hrest⟩ := hwhole.exists_tail (ne_slash_of_isListChar hx)
    obtain ⟨t'', rfl, hlast⟩ := ih hrest
    exact ⟨t'', rfl, hlast⟩
  | @comment w s t hw _ ih =>
    rw [List.append_assoc] at hwhole
    obtain ⟨t', rfl, hrest⟩ := hwhole.exists_of_comment fun post => by
      rw [List.append_assoc]
      exact hw (s' ++ post)
    obtain ⟨t'', rfl, hlast⟩ := ih hrest
    exact ⟨t'', rfl, hlast⟩

theorem eq_nil (h : Commented [] t) : t = [] := by
  generalize htext : ([] : List Char) = text at h
  cases h with
  | nil => rfl
  | plain _ _ => exact nomatch htext
  | @comment w s _ hw _ =>
    obtain ⟨w', rfl⟩ := (hw []).exists_cons
    exact nomatch htext

/-- No comment ends in a blank, so a blank at the end stands for itself. -/
theorem getLast?_eq {b : Char} (h : Commented s t) (hb : isBlank b = true)
    (hlast : s.getLast? = some b) : t.getLast? = some b := by
  induction h with
  | nil => exact hlast
  | @plain x s t _ hrest ih =>
    cases s with
    | nil =>
      rw [hrest.eq_nil]
      exact hlast
    | cons y s =>
      have hmore := ih hlast
      rw [List.getLast?_cons, hmore]
      rfl
  | @comment w s t hw hrest ih =>
    cases s with
    | nil =>
      -- a comment in front of any text is closed by its own mark
      cases hw ['x'] with
      | line _ hpost => exact absurd (hpost 'x' [] rfl) (by decide)
      | @block s _ _ =>
        have hend : '/' :: '*' :: (s ++ ['*', '/']) = '/' :: '*' :: (s ++ ['*']) ++ ['/'] := by simp
        rw [List.append_nil, hend, List.getLast?_concat] at hlast
        rw [← Option.some.inj hlast] at hb
        exact absurd hb (by decide)
    | cons y s =>
      have hmore := ih (by simpa using hlast)
      rw [List.getLast?_cons, hmore]
      rfl

/-- A blank at the start stands for itself. -/
theorem head?_eq {b : Char} (h : Commented s t) (hb : isBlank b = true)
    (hhead : s.head? = some b) : t.head? = some b := by
  obtain ⟨s, rfl⟩ := List.head?_eq_some_iff.mp hhead
  obtain ⟨t', rfl, -⟩ := h.exists_tail (x := b) fun heq => absurd (heq ▸ hb) (by decide)
  rfl

/-- A commented text that begins with no colon begins a list. -/
theorem startsList {x : Char} (h : Commented (x :: s) t) (hx : x ≠ ':') (ahead : List Char) :
    StartsList (x :: s ++ ahead) := by
  generalize htext : x :: s = text at h
  cases h with
  | nil => exact nomatch htext
  | @plain y s' t' hy _ =>
    obtain ⟨rfl, rfl⟩ := List.cons.inj htext
    refine Or.inl ⟨x, s ++ ahead, rfl, ?_⟩
    rw [Bool.not_eq_true', ← Bool.not_eq_true, List.contains_iff_mem] at hy ⊢
    intro hmem
    rcases List.mem_cons.mp hmem with rfl | hmem
    · exact hx rfl
    · exact hy hmem
  | @comment w s' t' hw _ =>
    exact Or.inr ⟨w, s' ++ ahead, List.append_assoc .., hw ahead⟩

/-- In front of a brace a list goes on with a commented text and with no more. -/
theorem roundsTaken (h : Commented s t) (post : List Char) : RoundsTaken s ('{' :: post) := by
  induction h with
  | nil =>
    exact .nil ⟨Text.forall_head (by decide), not_opensComment_cons (by decide) post⟩
  | plain hx _ ih => exact .plain hx ih
  | comment hw _ ih => exact .comment (hw _) ih

end Commented

/-- What a list goes on with in front of a brace is a commented text. -/
theorem RoundsTaken.exists_commented {s post : List Char} (h : RoundsTaken s ('{' :: post)) :
    ∃ t, Commented s t := by
  generalize hahead : '{' :: post = ahead at h
  induction h with
  | nil _ => exact ⟨[], .nil⟩
  | @plain x _ _ hx _ ih =>
    obtain ⟨t, ht⟩ := ih hahead
    exact ⟨x :: t, .plain hx ht⟩
  | @comment w s _ hw _ ih =>
    obtain ⟨t, ht⟩ := ih hahead
    refine ⟨' ' :: t, .comment (fun post' => ?_) ht⟩
    subst hahead
    cases hw with
    | line hline hpost =>
      -- the brace is no newline, so the newline stands in the list
      have hs : s ≠ [] := by
        rintro rfl
        exact absurd (hpost '{' post rfl) (by decide)
      obtain ⟨y, s, rfl⟩ := List.exists_cons_of_ne_nil hs
      refine .line hline fun x rest hx => ?_
      rw [← (List.cons.inj hx).1]
      exact hpost y (s ++ '{' :: post) rfl
    | block hfirst => exact .block hfirst

/-! ### The names of a list -/

/-- The names of a list are those of the commented text behind the colon, of which the list may leave
out blanks. -/
theorem parseBases_of_commented {front list t : List Char} (hfront : ∀ x ∈ front, isBlank x = true)
    (h : Commented (front ++ list) t) :
    parseBases list =
      (((splitBases 0 t).map baseName).filter (!·.isEmpty)).map String.ofList := by
  obtain ⟨t, rfl, hlist⟩ := h.exists_of_append fun hmem => absurd (hfront _ hmem) (by decide)
  rw [hlist.uncommented.parseBases_eq, parseBases_of_uncommented hlist.uncommented,
    map_baseName_splitBases_append hfront]

/-- **A list is taken from a commented text in front of a brace**, if the text begins with a blank or
a list begins there. -/
theorem exists_tailTaken_of_commented {front text t : List Char}
    (hfront : ∀ x ∈ front, isBlank x = true) (h : Commented text t) (post : List Char)
    (hstarts : (∃ b ∈ text.head?, isBlank b = true) ∨ ¬ RefusesList (text ++ '{' :: post)) :
    ∃ back list, text = back ++ list ∧ (∀ x ∈ back, isBlank x = true) ∧
      TailTaken (front ++ ':' :: text) (some list) ('{' :: post) := by
  obtain ⟨back, list, rfl, hback, hrest⟩ : ∃ back list, text = back ++ list ∧
      (∀ x ∈ back, isBlank x = true) ∧
        ∀ x s, list ++ '{' :: post = x :: s → isBlank x = false := by
    rcases Text.forall_or_exists_first isBlank text with hall | ⟨u, y, rest, rfl, hu, hy⟩
    · exact ⟨text, [], (List.append_nil text).symm, hall, Text.forall_head (by decide)⟩
    · exact ⟨u, y :: rest, rfl, hu, Text.forall_head hy⟩
  obtain ⟨_, -, hlist⟩ := h.exists_of_append fun hmem => absurd (hback _ hmem) (by decide)
  have htaken := hlist.roundsTaken post
  by_cases hrefused : RefusesList (list ++ '{' :: post)
  · rcases List.eq_nil_or_concat back with rfl | ⟨back, b, rfl⟩
    · -- nothing is left that could be given back
      rcases hstarts with ⟨b, hhead, hb⟩ | hnot
      · obtain ⟨s, hs⟩ := List.head?_eq_some_iff.mp hhead
        have hfirst := hrest b (s ++ '{' :: post) (by rw [← List.cons_append, ← hs]; rfl)
        rw [hb] at hfirst
        exact nomatch hfirst
      · exact absurd hrefused hnot
    · rw [List.concat_eq_append] at hback ⊢
      refine ⟨back, b :: list, by simp, fun x hx => hback x (by simp [hx]), ?_⟩
      have htail := TailTaken.back hfront hback hrest hrefused htaken
      rwa [List.append_assoc back [b] list, List.singleton_append]
  · exact ⟨back, list, rfl, hback, .kept hfront hback hrest hrefused htaken⟩

/-! ### The comment in the list -/

section Insert

variable {list list' w t t' blanks post : List Char}

/-- Where a list begins, it begins with the comment in it. -/
theorem startsList_insert (hlist : Commented list t) (hw : Commented w blanks)
    (hslash : ∃ s, w = '/' :: s) (hlist' : Commented list' t')
    (hplace : AtBlank list (list' ++ '{' :: post))
    (h : (∃ b ∈ (list ++ list').head?, isBlank b = true) ∨
      ¬ RefusesList (list ++ list' ++ '{' :: post)) :
    (∃ b ∈ (list ++ (w ++ list')).head?, isBlank b = true) ∨
      ¬ RefusesList (list ++ (w ++ list') ++ '{' :: post) := by
  obtain ⟨s, rfl⟩ := hslash
  have hstarts : ∀ {u v : List Char}, Commented u v → (∀ rest, u ≠ ':' :: rest) →
      StartsList (u ++ ('/' :: s ++ list') ++ '{' :: post) := by
    intro u v hu hcolon
    have hwhole := hu.append (hw.append hlist')
    cases u with
    | nil => exact hwhole.startsList (by decide) _
    | cons x u =>
      have hx : x ≠ ':' := by
        rintro rfl
        exact hcolon u rfl
      exact hwhole.startsList hx _
  by_cases hcolon : ∃ rest, list = ':' :: rest
  · obtain ⟨rest, rfl⟩ := hcolon
    have hnot := h.resolve_left fun ⟨b, hhead, hb⟩ => by
      rw [← Option.some.inj hhead] at hb
      exact absurd hb (by decide)
    -- the list begins behind two colons, so the comment is not put between these
    right
    intro hrefused
    refine hnot ⟨not_startsList_colon _, fun behind hbehind hstarts' => ?_⟩
    rcases rest with _ | ⟨c, rest⟩
    · have hnext : list' ++ '{' :: post = ':' :: behind := (List.cons.inj hbehind).2
      rw [hnext] at hplace
      rcases hplace with ⟨b, hlast, hb⟩ | ⟨b, hhead, hb⟩
      · rw [← Option.some.inj hlast] at hb
        exact absurd hb (by decide)
      · rw [← Option.some.inj hhead] at hb
        exact absurd hb (by decide)
    · obtain ⟨rfl, hrest⟩ : c = ':' ∧ rest ++ list' ++ '{' :: post = behind :=
        List.cons.inj (List.cons.inj hbehind).2
      obtain ⟨_, -, hone⟩ := hlist.exists_tail (by decide)
      obtain ⟨_, -, htwo⟩ := hone.exists_tail (by decide)
      refine hrefused.behind _ rfl (hstarts htwo fun rest' hrest' => ?_)
      rw [← hrest, hrest'] at hstarts'
      exact not_startsList_colon _ hstarts'
  · push Not at hcolon
    exact Or.inr fun hrefused => hrefused.here (hstarts hlist hcolon)

/-- What a list is in front of a brace, behind its colon. -/
theorem TailTaken.exists_of_colon {taken front rest : List Char} {kept : Option (List Char)}
    (h : TailTaken taken kept ('{' :: post)) (htaken : taken = front ++ ':' :: rest)
    (hfront : ':' ∉ front) :
    (∀ x ∈ front, isBlank x = true) ∧ ∃ back l t, rest = back ++ l ∧ kept = some l ∧
      (∀ x ∈ back, isBlank x = true) ∧ Commented rest t ∧
        ((∃ b ∈ rest.head?, isBlank b = true) ∨ ¬ RefusesList (rest ++ '{' :: post)) := by
  -- the colon of the list is the first one
  have hcut : ∀ {front' rest' : List Char}, (∀ x ∈ front', isBlank x = true) →
      front' ++ ':' :: rest' = front ++ ':' :: rest → front' = front ∧ rest' = rest := by
    intro front' rest' hfront' heq
    have hno : ∀ x ∈ front', decide (x ≠ ':') = true := by
      intro x hx
      rw [decide_eq_true_eq]
      rintro rfl
      exact absurd (hfront' _ hx) (by decide)
    have hno' : ∀ x ∈ front, decide (x ≠ ':') = true := by
      intro x hx
      rw [decide_eq_true_eq]
      rintro rfl
      exact hfront hx
    obtain ⟨rfl, -, rfl⟩ := Text.append_cons_inj_of_class hno hno' (by decide) (by decide) heq
    exact ⟨rfl, rfl⟩
  have hblanks : ∀ {back : List Char}, (∀ x ∈ back, isBlank x = true) → Commented back back :=
    fun hback => .of_forall fun x hx => isListChar_of_isBlank (hback x hx)
  generalize hahead : '{' :: post = ahead at h
  cases h with
  | none _ => simp at htaken
  | @kept front' back l _ hfront' hback hhead hnot hl =>
    subst hahead
    obtain ⟨rfl, rfl⟩ := hcut hfront' htaken
    obtain ⟨t, ht⟩ := hl.exists_commented
    refine ⟨hfront', back, l, back ++ t, rfl, rfl, hback, (hblanks hback).append ht, ?_⟩
    cases back with
    | nil => exact Or.inr hnot
    | cons b back => exact Or.inl ⟨b, rfl, hback b (List.mem_cons_self ..)⟩
  | @back front' back l _ b hfront' hback _ _ hl =>
    subst hahead
    obtain ⟨rfl, rfl⟩ := hcut hfront' htaken
    obtain ⟨t, ht⟩ := hl.exists_commented
    have hb : isBlank b = true := hback b (by simp)
    have hback' : ∀ x ∈ back, isBlank x = true := fun x hx => hback x (by simp [hx])
    refine ⟨hfront', back, b :: l, back ++ b :: t, rfl, rfl, hback',
      (hblanks hback').append (.plain (isListChar_of_isBlank hb) ht), Or.inl ?_⟩
    cases back with
    | nil => exact ⟨b, rfl, hb⟩
    | cons c back => exact ⟨c, rfl, hback' c (List.mem_cons_self ..)⟩

/-- **With the comment in it the list is taken up to the brace, and it has the same names.** -/
theorem TailTaken.exists_insert {front : List Char} {kept : Option (List Char)}
    (h : TailTaken (front ++ ':' :: (list ++ list')) kept ('{' :: post)) (hfront : ':' ∉ front)
    (hlist : Commented list t) (hw : Commented w blanks) (hslash : ∃ s, w = '/' :: s)
    (hblanks : ∀ x ∈ blanks, isBlank x = true) (hplace : AtBlank list (list' ++ '{' :: post)) :
    ∃ l, TailTaken (front ++ ':' :: (list ++ (w ++ list'))) (some l) ('{' :: post) ∧
      parseBases l = (kept.map parseBases).getD [] := by
  obtain ⟨hfront_ok, back, l, t₀, hl, rfl, hback, hwhole, hstarts⟩ := h.exists_of_colon rfl hfront
  obtain ⟨t', rfl, hlist'⟩ := hlist.exists_of_append_commented hwhole
  have hcommented := hlist.append (hw.append hlist')
  obtain ⟨back', l', hl', hback', htail⟩ := exists_tailTaken_of_commented hfront_ok hcommented post
    (startsList_insert hlist hw hslash hlist' hplace hstarts)
  refine ⟨l', htail, ?_⟩
  rw [hl'] at hcommented
  rw [hl] at hwhole
  have hat : AtBlank t t' := by
    rcases hplace with ⟨b, hlast, hb⟩ | ⟨b, hhead, hb⟩
    · exact Or.inl ⟨b, hlist.getLast?_eq hb hlast, hb⟩
    · refine Or.inr ⟨b, hlist'.head?_eq hb ?_, hb⟩
      cases list' with
      | nil =>
        rw [← Option.some.inj hhead] at hb
        exact absurd hb (by decide)
      | cons x list' => exact hhead
  rw [parseBases_of_commented hback' hcommented, Option.map_some, Option.getD_some,
    parseBases_of_commented hback hwhole, map_baseName_splitBases_insert hblanks hat]

end Insert
end HeaderSurvey
