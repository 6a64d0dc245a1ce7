import HeaderSurvey.Proofs.Declaration.InsertedBehind
import HeaderSurvey.Proofs.Declaration.ListComment
import HeaderSurvey.Proofs.Declaration.Nesting

/-!
# A comment at the head of a type

Of the text of a header only the lists of bases are read with their comments in mind.  So a comment
in front of the keyword of a type, or in its list of bases, leaves the types of the text as they are
(`SourceUnit.parse_insert_comment`), but one between the name and the brace hides the type
(`SourceUnit.not_parse_insert_comment`).
-/

namespace HeaderSurvey

open Pattern

/-! ### The comment -/

/-- A comment as it can be written, with the end of its line or with its closing mark.  Neither a
brace nor a word for a type stands in it. -/
structure PlainComment (w : List Char) : Prop where
  written : (∃ s, w = '/' :: '/' :: s ++ ['\n'] ∧ '\n' ∉ s) ∨
    ∃ s, w = '/' :: '*' :: (s ++ ['*', '/']) ∧ EndsFirst ['*', '/'] s
  no_brace : ∀ x ∈ w, x ≠ '{' ∧ x ≠ '}'
  type_free : TypeFree w

namespace PlainComment

variable {w : List Char}

theorem exists_cons (h : PlainComment w) : ∃ s, w = '/' :: s := by
  rcases h.written with ⟨s, rfl, -⟩ | ⟨s, rfl, -⟩
  · exact ⟨'/' :: s ++ ['\n'], rfl⟩
  · exact ⟨_, rfl⟩

/-- In a list of bases it counts as blanks. -/
theorem exists_commented (h : PlainComment w) :
    ∃ blanks, Commented w blanks ∧ ∀ x ∈ blanks, isBlank x = true := by
  obtain ⟨f, rfl⟩ : ∃ f : Filler, w = f.text := by
    rcases h.written with ⟨s, rfl, hs⟩ | ⟨s, rfl, hs⟩
    · exact ⟨.line s hs, rfl⟩
    · exact ⟨.block s hs, rfl⟩
  exact ⟨f.plain, f.commented, fun x hx => f.isBlank_of_mem_plain hx⟩

/-- It ends in no word. -/
theorem exists_concat (h : PlainComment w) :
    ∃ s x, w = s ++ [x] ∧ isWordChar x = false ∧ TypeFree s := by
  obtain ⟨s, x, rfl, hx⟩ : ∃ s x, w = s ++ [x] ∧ isWordChar x = false := by
    rcases h.written with ⟨s, rfl, -⟩ | ⟨s, rfl, -⟩
    · exact ⟨'/' :: '/' :: s, '\n', rfl, by decide⟩
    · exact ⟨'/' :: '*' :: (s ++ ['*']), '/', by simp, by decide⟩
  refine ⟨s, x, rfl, hx, fun kw hmem => h.type_free kw ?_⟩
  rw [Text.runs_append_cons hx, List.mem_append]
  exact Or.inl hmem

end PlainComment

/-! ### The comment in the head -/

section Head

variable {p : HeadText} {kept : Option (List Char)} {head list list' w t blanks rest ahead : List Char}

/-- No colon stands in front of the list. -/
theorem HeadText.IsTaken.colon_notMem (h : p.IsTaken kept ahead) :
    ':' ∉ p.keyword.text.toList ++ (p.blanks ++ (p.name ++ p.word)) := by
  have hword : ∀ x, isWordChar x = true → x ≠ ':' := by
    rintro x hx rfl
    exact absurd hx (by decide)
  have hblank : ∀ {s : List Char}, (∀ x ∈ s, isBlank x = true) → ':' ∉ s :=
    fun hs hmem => absurd (hs ':' hmem) (by decide)
  obtain ⟨x, s, hname, hx, hs⟩ := h.name_ok
  have hfinal : ':' ∉ p.word := by
    generalize htaken : p.word = word
    have hword_ok := h.word_ok
    rw [htaken] at hword_ok
    cases hword_ok with
    | none _ => simp
    | word _ hblanks =>
      rw [List.mem_append, not_or]
      exact ⟨hblank hblanks, by decide⟩
  have hname' : ':' ∉ p.name := by
    rw [hname, List.mem_cons, not_or]
    exact ⟨(hword x (isWordChar_of_isNameStart hx)).symm, fun hmem => hword _ (hs _ hmem) rfl⟩
  simp only [List.mem_append, not_or]
  exact ⟨fun hmem => hword _ (isWordChar_of_mem_keyword hmem) rfl, hblank h.blanks_ok, hname', hfinal⟩

/-- In front of a brace a head with a colon goes on up to the brace. -/
theorem HeadText.IsTaken.gap_eq_nil {gap : List Char} (h : p.IsTaken kept (gap ++ '{' :: rest))
    (hgap : ∀ x ∈ gap, isBlank x = true) (hcolon : ':' ∈ p.text ++ gap) : gap = [] := by
  rcases gap with _ | ⟨x, gap⟩
  · rfl
  · have hstarts : StartsList (x :: gap ++ '{' :: rest) :=
      startsList_of_isBlank (hgap x (List.mem_cons_self ..)) _
    have htext : p.text = p.keyword.text.toList ++ (p.blanks ++ (p.name ++ p.word)) := by
      rw [text, h.tail_eq_nil hstarts, List.append_nil]
    rw [htext, List.mem_append] at hcolon
    rcases hcolon with hcolon | hcolon
    · exact absurd hcolon h.colon_notMem
    · exact absurd (hgap ':' hcolon) (by decide)

/-- The list begins at the first colon. -/
theorem HeadText.IsTaken.exists_tail (h : p.IsTaken kept ahead)
    (htext : p.text = head ++ ':' :: rest) (hhead : ':' ∉ head) :
    ∃ front, head = p.keyword.text.toList ++ (p.blanks ++ (p.name ++ p.word)) ++ front ∧
      p.tail = front ++ ':' :: rest ∧ ':' ∉ front := by
  have hsplit : head ++ ':' :: rest =
      p.keyword.text.toList ++ (p.blanks ++ (p.name ++ p.word)) ++ p.tail := by
    rw [← htext, text]
    simp
  obtain ⟨front, rfl, htail⟩ := exists_of_append_cons hsplit h.colon_notMem
  exact ⟨front, rfl, htail, fun hmem => hhead (List.mem_append_right _ hmem)⟩

/-- Blanks in front of a colon do not lead to the word `final`. -/
theorem FinalTaken.of_colon {word front ahead ahead' : List Char}
    (hfront : ∀ x ∈ front, isBlank x = true) (h : FinalTaken word (front ++ ':' :: ahead)) :
    FinalTaken word (front ++ ':' :: ahead') := by
  cases h with
  | none _ =>
    refine .none fun blanks rest _ hblanks heq => ?_
    obtain ⟨-, hcolon, -⟩ := Text.append_cons_inj_of_class hfront hblanks (by decide)
      (by decide : isBlank 'f' = false) heq
    exact absurd hcolon (by decide)
  | word hne hblanks => exact .word hne hblanks

/-- **A head is taken with a comment in its list**, and it has the same bases. -/
theorem HeadText.IsTaken.exists_insert (h : p.IsTaken kept ('{' :: rest))
    (htext : p.text = head ++ ':' :: (list ++ list')) (hhead : ':' ∉ head)
    (hlist : Commented list t) (hw : PlainComment w) (hplace : AtBlank list (list' ++ '{' :: rest)) :
    ∃ (p' : HeadText) (kept' : Option (List Char)), p'.IsTaken kept' ('{' :: rest) ∧
      HeadText.IsLonger w (head ++ ':' :: list) list' p kept p' kept' := by
  obtain ⟨front, rfl, htail, hfront⟩ := h.exists_tail htext hhead
  obtain ⟨blanks, hcommented, hblanks⟩ := hw.exists_commented
  have htaken := h.tail_ok
  rw [htail] at htaken
  obtain ⟨hfront_ok, -⟩ := htaken.exists_of_colon rfl hfront
  obtain ⟨l, htaken', hbases⟩ :=
    htaken.exists_insert hfront hlist hcommented hw.exists_cons hblanks hplace
  refine ⟨{ p with tail := front ++ ':' :: (list ++ (w ++ list')) }, some l, ?_,
    ⟨by simp, by simpa using htext, by simp [text], rfl, rfl, hbases⟩⟩
  refine ⟨h.blanks_ne_nil, h.blanks_ok, h.name_ok, ?_, ?_, htaken'⟩
  · have hends := h.name_ends
    have hsame : ∀ s, p.word ++ (front ++ ':' :: s ++ '{' :: rest) =
        p.word ++ (front ++ [':']) ++ (s ++ '{' :: rest) := by simp
    rw [htail, hsame] at hends
    dsimp only
    rw [hsame]
    exact forall_head_congr (by simp) hends
  · have hword := h.word_ok
    rw [htail, List.append_assoc, List.cons_append] at hword
    dsimp only
    rw [List.append_assoc, List.cons_append]
    exact hword.of_colon hfront_ok

end Head

/-! ### In front of the keyword -/

/-- What closes an opening mark of `pre` closes it without `w` too. -/
def KeepsMarks (pre w post : List Char) : Prop :=
  ∀ v, '/' :: '*' :: v <:+ pre → ['*', '/'] <:+: v ++ (w ++ post) → ['*', '/'] <:+: v ++ post

section Place

variable {unit : SourceUnit} {pre w blanks rest : List Char} {bs : List Block} {b : Block}

/-- Behind a comment only the comment tells whether a word stands in front. -/
theorem PlainComment.isAfterEnum_eq (hw : PlainComment w) (hblanks : ∀ x ∈ blanks, isBlank x = true)
    (pre : List Char) :
    isAfterEnum (Cursor.between (pre ++ (w ++ blanks)) []) = isAfterEnum (Cursor.between w []) := by
  obtain ⟨s, rfl⟩ := hw.exists_cons
  have hskip : isAfterEnum (Cursor.between (pre ++ ('/' :: s ++ blanks)) []) =
      isAfterEnum (Cursor.between (pre ++ '/' :: s) []) := by
    rw [← List.append_assoc, isAfterEnum, isAfterEnum, Cursor.before_between, Cursor.before_between,
      List.reverse_append, List.dropWhile_append_of_pos (by simpa using hblanks)]
  rw [hskip, Cursor.between, Cursor.between, List.reverse_append, List.reverse_cons,
    List.append_assoc, List.singleton_append, isAfterEnum_append_cons (by decide) (by decide),
    isAfterEnum_append_cons (by decide) (by decide)]

theorem PlainComment.headIsWord_eq (hw : PlainComment w) (hblanks : ∀ x ∈ blanks, isBlank x = true)
    (pre : List Char) : Cursor.headIsWord (pre ++ (w ++ blanks)).reverse = false := by
  rcases List.eq_nil_or_concat blanks with rfl | ⟨blanks, b, rfl⟩
  · obtain ⟨s, x, rfl, hx, -⟩ := hw.exists_concat
    simpa [Cursor.headIsWord] using hx
  · have hb : isWordChar b = false := isWordChar_of_isBlank (hblanks b (by simp))
    simpa [Cursor.headIsWord] using hb

/-- The walk passes over the comment and the blanks behind it. -/
theorem PlainComment.readsTypes_skip (hw : PlainComment w)
    (hblanks : ∀ x ∈ blanks, isBlank x = true) {xs : List TypeDecl}
    (h : ReadsTypes unit (Cursor.between (pre ++ (w ++ blanks)) rest) xs) :
    ReadsTypes unit (Cursor.between pre (w ++ (blanks ++ rest))) xs := by
  obtain ⟨s, x, rfl, hx, hs⟩ := hw.exists_concat
  refine readsTypes_skip_of_typeFree hs hx ?_
  rw [← List.append_assoc] at h
  exact readsTypes_skip_of_forall (fun y hy => isWordChar_of_isBlank (hblanks y hy)) h

/-- **In front of the keyword the comment leaves the types as they are**, unless it ends in the word
`enum`. -/
theorem exists_reads_insert_keyword (hw : PlainComment w)
    (henum : isAfterEnum (Cursor.between w []) = false) (hlast : pre.getLast? ≠ some '/')
    (hblanks : ∀ x ∈ blanks, isBlank x = true) (hmarks : KeepsMarks pre w (blanks ++ rest))
    (h : ((typeScanner unit).moveTo (Cursor.between [] (pre ++ (blanks ++ rest)))).blocks = .ok bs)
    (hb : b ∈ bs) (hstart : b.keyword.start = Cursor.between (pre ++ blanks) rest)
    (hplain : isAfterEnum b.keyword.start = false) :
    ∃ ys, ReadsTypes unit (Cursor.between [] (pre ++ (w ++ (blanks ++ rest)))) ys ∧
      List.Forall₂ (TypeDecl.Inserted w (Text.byteLength pre))
        (bs.filterMap (typeOfBlock? unit)) ys := by
  obtain ⟨hreported, -⟩ := Scanner.isReported_of_mem_moveTo h hb
  obtain ⟨hword, kw, x, behind, rfl, -⟩ :
      Cursor.headIsWord (pre ++ blanks).reverse = false ∧
        ∃ (kw : TypeKeyword) (x : Char) (behind : List Char),
          rest = kw.text.toList ++ x :: behind ∧ isBlank x = true := by
    have hkeyword := exists_keyword_of_matchAt? hreported.matchAt
    rwa [hstart] at hkeyword
  rw [hstart, isAfterEnum_between _ _ []] at hplain
  have hseam : Seam pre ([] ++ (blanks ++ (kw.text.toList ++ x :: behind)))
      ([] ++ (w ++ (blanks ++ (kw.text.toList ++ x :: behind)))) := by
    obtain ⟨s, rfl⟩ := hw.exists_cons
    exact ⟨.comment hblanks hlast, hmarks⟩
  obtain ⟨bs₁, bs₂, xs, rfl, -, hbs₂, hxs, hreads⟩ :=
    exists_reads_of_seam hw.no_brace hseam (List.nil_append _) hblanks hstart
      (List.nil_append pre) hb h
  obtain ⟨ys, hys, hbehind⟩ := exists_reads_behind hword (hw.headIsWord_eq hblanks pre)
    (keepsEnum_keyword hplain kw _)
    (keepsEnum_keyword ((hw.isAfterEnum_eq hblanks pre).trans henum) kw _) ⟨bs₂, hbs₂, rfl⟩
  refine ⟨xs ++ ys, hreads ys (hw.readsTypes_skip hblanks hys), ?_⟩
  rw [List.append_nil] at hxs
  rw [List.filterMap_append]
  exact List.rel_append hxs hbehind

end Place

/-! ### In the list of bases -/

section List

variable {unit : SourceUnit} {front head list w plain post : List Char} {bs : List Block} {b : Block}
  {t : TypeDecl}

theorem exists_gap_of_skipWhile {q : Char → Bool} {u s f rest : List Char}
    (h : (Cursor.between u s).skipWhile q = Cursor.between f rest) :
    ∃ gap, s = gap ++ rest ∧ f = u ++ gap ∧ ∀ x ∈ gap, q x = true := by
  have hle := Cursor.le_skipWhile q (Cursor.between u s)
  have hgap : ∀ x ∈ (Cursor.between u s).upTo ((Cursor.between u s).skipWhile q), q x = true :=
    fun x hx => Cursor.of_mem_upTo_skipWhile hx
  rw [h] at hle hgap
  refine ⟨_, ?_, ?_, hgap⟩
  · simpa using Cursor.rest_eq_upTo hle
  · simpa using congrArg List.reverse (Cursor.before_eq_upTo hle)

/-- A type with a place behind its first colon and in front of its body. -/
theorem exists_isTaken_of_typeOfBlock? (hb : b.IsReported typePattern)
    (htype : typeOfBlock? unit b = some t)
    (hstart : b.keyword.start = Cursor.between front (head ++ ':' :: list ++ post))
    (hplace : Text.byteLength (front ++ (head ++ ':' :: list)) < t.bodySpan.start) :
    ∃ (p : HeadText) (kept : Option (List Char)) (list' body behind : List Char),
      post = list' ++ '{' :: (body ++ '}' :: behind) ∧ p.text = head ++ ':' :: (list ++ list') ∧
      p.IsTaken kept ('{' :: (body ++ '}' :: behind)) ∧
      p.IsMatch kept front ('{' :: (body ++ '}' :: behind)) b.keyword ∧ Balanced body ∧
      b.braces = some (Braces.around (front ++ p.text) body behind) := by
  obtain ⟨-, p, kept, ahead, htext, hp, hm⟩ := exists_isMatch_of_matchAt? hb.matchAt
  rw [hstart, Cursor.before_between, List.reverse_reverse] at hm
  rw [hstart, Cursor.rest_between] at htext
  rcases hbraces : b.braces with _ | braces
  · have hnone := typeOfBlock?_of_braces_none unit b.keyword
    rw [← hbraces, htype] at hnone
    exact nomatch hnone
  have hopen := hb.braces_eq
  rw [hbraces] at hopen
  obtain ⟨f, body, behind, hbody, rfl, hskip⟩ := bracesAt_eq_some hopen
  rw [hm.stop_eq] at hskip
  obtain ⟨gap, rfl, rfl, hgap⟩ := exists_gap_of_skipWhile hskip
  have hspan := bodySpan_of_typeOfBlock? htype
  rw [Block.bodySpan?_of_around hbraces] at hspan
  rw [← Option.some.inj hspan] at hplace
  have hcut : head ++ ':' :: list ++ post = p.text ++ gap ++ '{' :: (body ++ '}' :: behind) := by
    rw [htext, List.append_assoc]
  rcases exists_of_append_eq_append_cons hcut with ⟨list', hfront, rfl⟩ | ⟨r, hfront, -⟩
  · have hcolon : ':' ∈ p.text ++ gap := by simp [hfront]
    obtain rfl := hp.gap_eq_nil (fun x hx => isBlank_of_isAsciiBlank (hgap x hx)) hcolon
    rw [List.append_nil] at hfront ⊢
    exact ⟨p, kept, list', body, behind, rfl, by simpa using hfront, hp, hm, hbody, rfl⟩
  · -- the place would be in the body
    have hbehind : front ++ (head ++ ':' :: list) = front ++ p.text ++ gap ++ ['{'] ++ r := by
      rw [hfront]
      simp
    rw [hbehind, Text.byteLength_append _ r] at hplace
    exact absurd hplace (Nat.not_lt.mpr (Nat.le_add_right ..))

/-- **A head with the comment in it declares the same type**, and behind it the types are the same. -/
theorem HeadText.IsLonger.exists_reads {p p' : HeadText} {kept kept' : Option (List Char)}
    {head rest body behind : List Char} (h : IsLonger w head rest p kept p' kept')
    (hp' : p'.IsTaken kept' ('{' :: (body ++ '}' :: behind)))
    (hm : p.IsMatch kept front ('{' :: (body ++ '}' :: behind)) b.keyword)
    (hword : Cursor.headIsWord front.reverse = false) (hbody : Balanced body)
    (hbraces : b.braces = some (Braces.around (front ++ p.text) body behind))
    (hbs : ((typeScanner unit).moveTo b.keyword.stop).blocks = .ok bs) :
    ∃ ys, ReadsTypes unit (Cursor.between front (p'.text ++ '{' :: (body ++ '}' :: behind))) ys ∧
      List.Forall₂ (TypeDecl.Inserted w (Text.byteLength (front ++ head)))
        ((b :: bs).filterMap (typeOfBlock? unit)) ys := by
  obtain ⟨m, hmatch, hm'⟩ := hp'.exists_matchAt? hword
  have hopen : bracesAt m.stop = .ok (some (Braces.around (front ++ p'.text) body behind)) := by
    rw [hm'.stop_eq]
    exact bracesAt_of_balanced (Cursor.skipWhile_between_cons _ _ (by decide)) hbody
  have hbrace : ∀ x ∈ ['{'], isWordChar x = false := by decide
  -- behind the brace
  have hends : ∀ s, Cursor.headIsWord (s ++ ['{']).reverse = false := by
    intro s
    rw [List.reverse_append]
    rfl
  have hfront : front ++ p.text ++ ['{'] = front ++ head ++ (rest ++ ['{']) := by simp [h.text_eq]
  have hfront' : front ++ p'.text ++ ['{'] = front ++ head ++ (w ++ (rest ++ ['{'])) := by
    simp [h.longer_eq]
  have hreads : ReadsTypes unit (Cursor.between (front ++ head ++ (rest ++ ['{']))
      (body ++ '}' :: behind)) (bs.filterMap (typeOfBlock? unit)) := by
    refine ⟨bs, ?_, rfl⟩
    rw [← hfront, ← blocks_typeScanner_skip unit hbrace, ← hbs, hm.stop_eq]
    rfl
  obtain ⟨ys, hys, hbehind⟩ := exists_reads_behind (hfront ▸ hends _) (hfront' ▸ hends _)
    (hfront ▸ keepsEnum_brace _ _) (hfront' ▸ keepsEnum_brace _ _) hreads
  rw [← hfront'] at hys
  have hafter : ReadsTypes unit m.stop ys := by
    rw [hm'.stop_eq]
    exact readsTypes_skip_of_forall hbrace hys
  refine ⟨_, Scanner.reads_block (f := typeOfBlock? unit)
    (b := ⟨m, some (Braces.around (front ++ p'.text) body behind)⟩) hmatch
    (start_lt_stop_of_advances rfl hmatch) hopen hafter, ?_⟩
  rw [filterMap_cons_eq]
  refine List.rel_append ?_ hbehind
  have hblock : b = ⟨b.keyword, some (Braces.around (front ++ p.text) body behind)⟩ := by
    rw [← hbraces]
  rw [hblock, hm.typeOfBlock?_eq, hm'.typeOfBlock?_eq]
  split_ifs
  · exact .nil
  · exact .cons (h.inserted_decl unit front body) .nil

/-- **In a list of bases the comment leaves the types as they are.** -/
theorem exists_reads_insert_list (hw : PlainComment w) (hhead : ':' ∉ head)
    (hlist : Commented list plain) (hplace : AtBlank list post)
    (hmarks : KeepsMarks (front ++ (head ++ ':' :: list)) w post)
    (h : ((typeScanner unit).moveTo
      (Cursor.between [] (front ++ (head ++ ':' :: list ++ post)))).blocks = .ok bs)
    (hb : b ∈ bs) (hstart : b.keyword.start = Cursor.between front (head ++ ':' :: list ++ post))
    (htype : typeOfBlock? unit b = some t)
    (hbefore : Text.byteLength (front ++ (head ++ ':' :: list)) < t.bodySpan.start) :
    ∃ ys, ReadsTypes unit (Cursor.between [] (front ++ (head ++ ':' :: list ++ (w ++ post)))) ys ∧
      List.Forall₂ (TypeDecl.Inserted w (Text.byteLength (front ++ (head ++ ':' :: list))))
        (bs.filterMap (typeOfBlock? unit)) ys := by
  obtain ⟨hreported, -⟩ := Scanner.isReported_of_mem_moveTo h hb
  have hword : Cursor.headIsWord front.reverse = false := by
    have hkeyword := (exists_keyword_of_matchAt? hreported.matchAt).1
    rwa [hstart, Cursor.before_between] at hkeyword
  obtain ⟨p, kept, list', body, behind, rfl, hp_text, hp, hm, hbody, hbraces⟩ :=
    exists_isTaken_of_typeOfBlock? hreported htype hstart hbefore
  -- the head with the comment in it
  obtain ⟨p', kept', hp', hlonger⟩ := hp.exists_insert hp_text hhead hlist hw hplace
  have htext : head ++ ':' :: list ++ (list' ++ '{' :: (body ++ '}' :: behind)) =
      p.text ++ '{' :: (body ++ '}' :: behind) := by
    rw [hlonger.text_eq, List.append_assoc (head ++ ':' :: list)]
  have htext' : head ++ ':' :: list ++ (w ++ (list' ++ '{' :: (body ++ '}' :: behind))) =
      p'.text ++ '{' :: (body ++ '}' :: behind) := by
    rw [hlonger.longer_eq]
    simp
  -- the seam is in front of the keyword
  have hseam : Seam front (head ++ ':' :: list ++ (list' ++ '{' :: (body ++ '}' :: behind)))
      (head ++ ':' :: list ++ (w ++ (list' ++ '{' :: (body ++ '}' :: behind)))) := by
    constructor
    · rw [htext, htext', HeadText.text, HeadText.text, hlonger.keyword_eq,
        List.append_assoc p.keyword.text.toList, List.append_assoc p.keyword.text.toList]
      exact .keyword hword
    · intro v hv hclosed
      rw [← List.append_assoc] at hclosed ⊢
      refine hmarks _ ?_ hclosed
      obtain ⟨s, rfl⟩ := hv
      exact ⟨s, by simp⟩
  obtain ⟨bs₁, bs₂, xs, rfl, hmem, hbs₂, hxs, hreads⟩ := exists_reads_of_seam hw.no_brace hseam
    (List.nil_append _).symm (by simp) (by rw [List.append_nil, hstart]) (List.nil_append front) hb h
  rw [List.append_nil] at hbs₂
  obtain ⟨bs₃, rfl, hbs₃⟩ := Scanner.exists_of_mem_start hbs₂ hmem hstart
  obtain ⟨ys, hys, hbehind⟩ := hlonger.exists_reads hp' hm hword hbody hbraces hbs₃
  refine ⟨xs ++ ys, hreads ys (by rwa [htext']), ?_⟩
  rw [List.filterMap_append]
  exact List.rel_append hxs hbehind

end List

/-! ### The whole text -/

theorem isAfterEnum_of_typeOfBlock? {unit : SourceUnit} {b : Block} {t : TypeDecl}
    (h : typeOfBlock? unit b = some t) : isAfterEnum b.keyword.start = false := by
  simp only [typeOfBlock?, Option.bind_eq_bind, Option.bind_none, Option.ite_none_left_eq_some,
    Option.bind_eq_some_iff] at h
  obtain ⟨_, -, _, -, hplain, -⟩ := h
  exact Bool.eq_false_iff.mpr hplain

/-- Between `pre` and `post` the comment `w` does not hide the type: the place is in front of the
keyword, with blanks at most in between, or in the list of bases, next to a blank and outside of its
comments. -/
inductive TypeDecl.KeptAt (t : TypeDecl) (w pre post : List Char) : Prop
  | keyword {blanks rest : List Char} : post = blanks ++ rest → (∀ x ∈ blanks, isBlank x = true) →
      t.span.start = Text.byteLength (pre ++ blanks) → pre.getLast? ≠ some '/' →
      isAfterEnum (Cursor.between w []) = false → KeptAt t w pre post
  | list {front head list plain : List Char} : pre = front ++ (head ++ ':' :: list) →
      t.span.start = Text.byteLength front → ':' ∉ head → Commented list plain →
      Text.byteLength pre < t.bodySpan.start → AtBlank list post → KeptAt t w pre post

/-- **A comment in front of the keyword of a type, or in its list of bases, leaves the types of the
text as they are**: none comes or goes, and what has the comment in it or behind it is longer or
further on by as much. -/
theorem SourceUnit.parse_insert_comment (path : String) (fileId : Nat) {pre w post : String}
    {d : Declarations} {t : TypeDecl} (hw : PlainComment w.toList)
    (h : (⟨path, pre ++ post, fileId⟩ : SourceUnit).parse .types = .ok d) (ht : t ∈ d.types)
    (hplace : t.KeptAt w.toList pre.toList post.toList)
    (hmarks : KeepsMarks pre.toList w.toList post.toList) :
    ∃ d', (⟨path, pre ++ (w ++ post), fileId⟩ : SourceUnit).parse .types = .ok d' ∧
      List.Forall₂ (TypeDecl.Inserted w.toList (Text.byteLength pre.toList)) d.types d'.types := by
  obtain ⟨types, htypes, hkept⟩ := SourceUnit.exists_types_of_parse h
  have hsublist : d.types.Sublist types := by
    rw [hkept, keepLast_eq_pwFilter]
    exact List.pwFilter_sublist types
  obtain ⟨bs, hbs, rfl⟩ := extractTypes_eq_ok_iff.mp htypes
  obtain ⟨b, hb, htype⟩ := List.mem_filterMap.mp (hsublist.subset ht)
  have hwalk : ((typeScanner ⟨path, pre ++ post, fileId⟩).moveTo
      (Cursor.between [] (pre.toList ++ post.toList))).blocks = .ok bs := by
    rw [← String.toList_append]
    exact hbs
  -- the block of the type begins at the place that the type has
  have hstart : ∀ u v, u ++ v = pre.toList ++ post.toList → t.span.start = Text.byteLength u →
      b.keyword.start = Cursor.between u v := by
    intro u v huv hoffset
    have htext : b.keyword.start.text = (Cursor.between u v).text := by
      rw [← Cursor.text_eq_of_le (Scanner.isReported_of_mem_moveTo hwalk hb).2]
      simpa using huv.symm
    have heq : b.keyword.start.offset = (Cursor.between u v).offset := by
      rw [Cursor.offset_between, ← hoffset, start_of_typeOfBlock? htype]
    exact le_antisymm (Cursor.le_iff.mpr ⟨htext, heq.le⟩) (Cursor.le_iff.mpr ⟨htext.symm, heq.ge⟩)
  obtain ⟨ys, hys, hsame⟩ : ∃ ys, ReadsTypes ⟨path, pre ++ (w ++ post), fileId⟩
      (Cursor.between [] (pre.toList ++ (w.toList ++ post.toList))) ys ∧
        List.Forall₂ (TypeDecl.Inserted w.toList (Text.byteLength pre.toList))
          (bs.filterMap (typeOfBlock? ⟨path, pre ++ post, fileId⟩)) ys := by
    cases hplace with
    | keyword hpost hblanks hoffset hlast henum =>
      have hplain := isAfterEnum_of_typeOfBlock? htype
      rw [hpost] at hstart hwalk hmarks ⊢
      exact exists_reads_insert_keyword hw henum hlast hblanks hmarks hwalk hb
        (hstart _ _ (by simp) hoffset) hplain
    | list hpre hoffset hhead hlist hbefore hat =>
      rw [hpre] at hstart hwalk hmarks hbefore ⊢
      rw [List.append_assoc] at hwalk ⊢
      exact exists_reads_insert_list hw hhead hlist hat hmarks hwalk hb
        (hstart _ _ (by simp) hoffset) htype hbefore
  refine ⟨⟨keepLast ys, []⟩, ?_, ?_⟩
  · rw [parse, extractTypes_of_reads (by rwa [String.toList_append, String.toList_append])]
  · rw [hkept]
    exact TypeDecl.Inserted.forall₂_keepLast hsame

/-- A line comment is put in front of the keyword, and a comment with a comma into the list. -/
theorem SourceUnit.parse_insert_comment_kept :
    let base : TypeDecl := ⟨.classWord, "B", [], "a.h", 0, 1, ⟨0, 11⟩, ⟨9, 10⟩, " "⟩
    let t : TypeDecl := ⟨.classWord, "A", ["B"], "a.h", 0, 2, ⟨13, 35⟩, ⟨33, 34⟩, " "⟩
    let front := "class B { };\n"
    (∃ d', (⟨"a.h", front ++ ("// final : C\n" ++ "class A : public B { };\n"), 0⟩ :
        SourceUnit).parse .types = .ok d' ∧
      List.Forall₂ (TypeDecl.Inserted "// final : C\n".toList 13) [base, t] d'.types) ∧
    ∃ d', (⟨"a.h", front ++ "class A : public" ++ ("/* C, */" ++ " B { };\n"), 0⟩ :
        SourceUnit).parse .types = .ok d' ∧
      List.Forall₂ (TypeDecl.Inserted "/* C, */".toList 29) [base, t] d'.types := by
  intro base t front
  have hslash : ∀ {pre w post : List Char}, '/' ∉ pre → KeepsMarks pre w post :=
    fun hnot v hv _ => absurd (hv.subset (List.mem_cons_self ..)) hnot
  constructor
  · have hparse : (⟨"a.h", front ++ "class A : public B { };\n", 0⟩ : SourceUnit).parse .types =
        .ok ⟨[base, t], []⟩ := by decide +kernel
    have hw : PlainComment "// final : C\n".toList :=
      ⟨Or.inl ⟨" final : C".toList, rfl, by decide⟩, by decide, fun kw => by cases kw <;> decide⟩
    have hplace : t.KeptAt "// final : C\n".toList front.toList "class A : public B { };\n".toList :=
      @TypeDecl.KeptAt.keyword t _ _ _ [] _ rfl (by simp) (by decide) (by decide) (by decide)
    have hlength : Text.byteLength front.toList = 13 := by decide
    rw [← hlength]
    exact SourceUnit.parse_insert_comment "a.h" 0 hw hparse (by simp) hplace (hslash (by decide))
  · have hparse : (⟨"a.h", front ++ "class A : public" ++ " B { };\n", 0⟩ : SourceUnit).parse
        .types = .ok ⟨[base, t], []⟩ := by decide +kernel
    have hw : PlainComment "/* C, */".toList :=
      ⟨Or.inr ⟨" C, ".toList, rfl, by decide⟩, by decide, fun kw => by cases kw <;> decide⟩
    have hplace : t.KeptAt "/* C, */".toList (front ++ "class A : public").toList
        " B { };\n".toList :=
      @TypeDecl.KeptAt.list t _ _ _ front.toList "class A ".toList " public".toList _ (by decide)
        (by decide) (by decide) (.of_forall (by decide)) (by decide) (Or.inr ⟨' ', rfl, rfl⟩)
    have hlength : Text.byteLength (front ++ "class A : public").toList = 29 := by decide
    rw [← hlength]
    exact SourceUnit.parse_insert_comment "a.h" 0 hw hparse (by simp) hplace (hslash (by decide))

/-- Between the name and the brace a comment hides the type. -/
theorem SourceUnit.not_parse_insert_comment :
    PlainComment "/* c */".toList ∧
      (⟨"a.h", "class A " ++ "{};", 0⟩ : SourceUnit).parse .types =
        .ok ⟨[⟨.classWord, "A", [], "a.h", 0, 1, ⟨0, 10⟩, ⟨9, 9⟩, ""⟩], []⟩ ∧
      (⟨"a.h", "class A " ++ ("/* c */" ++ "{};"), 0⟩ : SourceUnit).parse .types =
        .ok ⟨[], []⟩ := by
  refine ⟨?_, by decide +kernel, by decide +kernel⟩
  exact ⟨Or.inr ⟨" c ".toList, rfl, by decide⟩, by decide, fun kw => by cases kw <;> decide⟩

end HeaderSurvey
