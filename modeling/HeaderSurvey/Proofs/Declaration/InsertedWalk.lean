import HeaderSurvey.Proofs.Declaration.Inserted
import HeaderSurvey.Proofs.Declaration.TypeReads
import Mathlib.Data.List.Forall2

/-!
# The walk in front of an inserted text

A text is put in at a seam or behind one.  The blocks that begin in front of the seam are the same
then, so the walk comes to the seam as it did, with the same types (`exists_reads_of_seam`).

This needs a block that begins at the seam: without it a list of bases could have taken what stands
there.
-/

namespace HeaderSurvey

open Pattern

/-! ### A walk without an error -/

namespace Scanner

variable {s : Scanner} {c d : Cursor} {b : Block} {bs : List Block}

/-- The first block of a walk, and the walk that is left. -/
theorem exists_of_blocks_cons (h : (s.moveTo c).blocks = .ok (b :: bs)) :
    s.pattern.IsLeftmost c b.keyword ∧ bracesAt b.keyword.stop = .ok b.braces ∧
      (s.moveTo (s.resumeAfter b)).blocks = .ok bs := by
  have hresults := results_of_blocks_eq_ok h
  rw [List.map_cons] at hresults
  rcases hnext : (s.moveTo c).next with ⟨_ | e | b', s'⟩
  · rw [results_of_next_none hnext] at hresults
    exact nomatch hresults
  · rw [results_of_next_error hnext] at hresults
    exact nomatch hresults
  · obtain ⟨c', hc, hm, -, hbraces, rfl⟩ := next_eq_ok hnext
    obtain rfl := Option.some.inj hc
    rw [results_of_next_some hnext] at hresults
    obtain ⟨hb, htail⟩ := List.cons.inj hresults
    obtain rfl := Except.ok.inj hb
    refine ⟨hm, hbraces, ?_⟩
    have hleft : (s.moveTo (s.resumeAfter b')).results = bs.map .ok := htail
    rw [blocks, hleft, ← List.append_nil (bs.map Except.ok), collect_map_ok_append]
    simp [collect, Except.map]

/-- A block of a walk begins at or behind the place where the walk stands. -/
theorem isReported_of_mem_moveTo (h : (s.moveTo c).blocks = .ok bs) (hb : b ∈ bs) :
    b.IsReported s.pattern ∧ c ≤ b.keyword.start := by
  have hmem : .ok b ∈ (s.moveTo c).results := by
    rw [results_of_blocks_eq_ok h]
    exact List.mem_map_of_mem hb
  obtain ⟨hreported, c', hc, hle⟩ := isReported_of_mem_results hmem
  obtain rfl := Option.some.inj hc
  exact ⟨hreported, hle⟩

/-- A block that begins where the walk stands is the first one. -/
theorem exists_of_mem_start (h : (s.moveTo c).blocks = .ok bs) (hb : b ∈ bs)
    (hstart : b.keyword.start = c) :
    ∃ bs', bs = b :: bs' ∧ (s.moveTo (s.resumeAfter b)).blocks = .ok bs' := by
  obtain ⟨hreported, -⟩ := isReported_of_mem_moveTo h hb
  obtain ⟨⟨keyword, braces⟩, bs, rfl⟩ := List.exists_cons_of_ne_nil (List.ne_nil_of_mem hb)
  obtain ⟨hleft, hbraces, hmore⟩ := exists_of_blocks_cons h
  have hhere : s.pattern.IsLeftmost c b.keyword :=
    ⟨hstart.ge, hreported.matchAt, fun d hle hlt => absurd (hle.trans_lt hlt) (hstart ▸ lt_irrefl c)⟩
  obtain rfl : keyword = b.keyword := hleft.unique hhere
  obtain rfl : b.braces = braces := Except.ok.inj (hreported.braces_eq.symm.trans hbraces)
  exact ⟨bs, rfl, hmore⟩

/-- A walk passes over a stretch in which no keyword begins. -/
theorem blocks_moveTo_eq (hle : c ≤ d) (h : ∀ e, c ≤ e → e < d → s.pattern.matchAt? e = none) :
    (s.moveTo c).blocks = (s.moveTo d).blocks := by
  rw [blocks, blocks, results_moveTo_eq (Pattern.find?_of_le hle h)]

end Scanner

/-! ### Heads in front of a seam -/

theorem HeadText.text_ne_nil (p : HeadText) : p.text ≠ [] := by
  obtain ⟨y, s, hy, -⟩ := exists_keyword_cons p.keyword
  rw [text, hy]
  exact List.cons_ne_nil _ _

/-- Where a type is matched, a list of bases could go on. -/
theorem startsList_of_matchAt? {pre rest : List Char} {m : Match}
    (h : typePattern.matchAt? (Cursor.between pre rest) = some m) : StartsList rest := by
  obtain ⟨-, kw, x, rest', hkw, -⟩ := exists_keyword_of_matchAt? h
  obtain ⟨y, s, hy, -, -, hfirst⟩ := exists_keyword_cons kw
  rw [Cursor.rest_between, hy] at hkw
  exact Or.inl ⟨y, s ++ x :: rest', hkw, hfirst⟩

/-- Where a list of bases could go on, a head has none. -/
theorem HeadText.IsTaken.tail_eq_nil {p : HeadText} {list : Option (List Char)} {ahead : List Char}
    (h : p.IsTaken list ahead) (hahead : StartsList ahead) : p.tail = [] := by
  generalize htaken : p.tail = taken
  have htail := h.tail_ok
  rw [htaken] at htail
  cases htail with
  | none _ => rfl
  | kept _ _ _ _ hlist => exact absurd hahead hlist.endsList.not_startsList
  | back _ _ _ _ hlist => exact absurd hahead hlist.endsList.not_startsList

/-- There it ends at its name or at the word behind that. -/
theorem HeadText.IsTaken.exists_concat {p : HeadText} {list : Option (List Char)}
    {ahead : List Char} (h : p.IsTaken list ahead) (hahead : StartsList ahead) :
    ∃ s y, p.text = s ++ [y] ∧ isBlank y = false := by
  have hword : ∃ s y, p.name ++ p.word = s ++ [y] ∧ isBlank y = false := by
    generalize hfinal : p.word = word
    have hword := h.word_ok
    rw [hfinal] at hword
    cases hword with
    | none _ =>
      obtain ⟨x, s, hname, hx, hs⟩ := h.name_ok
      have hall : ∀ y ∈ x :: s, isWordChar y = true :=
        List.forall_mem_cons.mpr ⟨isWordChar_of_isNameStart hx, hs⟩
      rw [hname, List.append_nil]
      rcases List.eq_nil_or_concat (x :: s) with hnil | ⟨front, y, hfront⟩
      · exact nomatch hnil
      · rw [List.concat_eq_append] at hfront
        refine ⟨front, y, hfront, ?_⟩
        have hy := hall y (by simp [hfront])
        rw [← Bool.not_eq_true]
        intro hblank
        rw [isWordChar_of_isBlank hblank] at hy
        exact nomatch hy
    | @word blanks _ _ _ => exact ⟨p.name ++ blanks ++ "fina".toList, 'l', by simp, by decide⟩
  obtain ⟨s, y, hs, hy⟩ := hword
  refine ⟨p.keyword.text.toList ++ (p.blanks ++ s), y, ?_, hy⟩
  rw [text, h.tail_eq_nil hahead, List.append_nil, hs]
  simp

theorem isBlank_of_isAsciiBlank {x : Char} (h : isAsciiBlank x = true) : isBlank x = true := by
  simp only [isAsciiBlank, Bool.or_eq_true, decide_eq_true_eq] at h
  rcases h with (((rfl | rfl) | rfl) | rfl) | rfl <;> decide

/-- A keyword begins with no blank and no brace. -/
theorem exists_keyword_not_blank (kw : TypeKeyword) :
    ∃ y s, kw.text.toList = y :: s ∧ isBlank y = false ∧ y ≠ '{' := by
  obtain ⟨y, s, hkw, hstart, -⟩ := exists_keyword_cons kw
  refine ⟨y, s, hkw, isBlank_of_isNameChar (isNameChar_of_isNameStart hstart), ?_⟩
  rintro rfl
  exact absurd hstart (by decide)

section OpensWithin

variable {pre post post' v t : List Char}

/-- In front of a seam blanks do not lead to a brace behind it. -/
theorem SeamHead.opensWithin (h : SeamHead pre post post') (v : List Char) :
    OpensWithin v post ∧ OpensWithin v post' := by
  have hnot : ∀ {y : Char} {gap : List Char}, isBlank y = false → y ≠ '{' →
      (∀ x ∈ gap, isAsciiBlank x = true) → y ∉ gap ++ ['{'] := by
    intro y gap hy hne hgap hmem
    rcases List.mem_append.mp hmem with hmem | hmem
    · rw [isBlank_of_isAsciiBlank (hgap y hmem)] at hy
      exact nomatch hy
    · exact hne (List.mem_singleton.mp hmem)
  have hcons : ∀ {y : Char} {v rest : List Char}, isBlank y = false → y ≠ '{' →
      OpensWithin v (y :: rest) := by
    intro y v rest hy hne gap rest' heq hgap
    obtain ⟨inside, hv, -⟩ := exists_of_append_cons (s := gap ++ ['{']) (t := rest')
      (by rw [heq]; simp) (hnot hy hne hgap)
    exact ⟨inside, by rw [hv]; simp⟩
  cases h with
  | @comment blanks rest rest' kw hblanks _ =>
    refine ⟨fun gap rest₁ heq hgap => ?_, hcons (by decide) (by decide)⟩
    obtain ⟨y, s, hkw, hblank, hne⟩ := exists_keyword_not_blank kw
    rw [hkw, ← List.append_assoc, List.cons_append] at heq
    obtain ⟨inside, hv⟩ := hcons hblank hne gap rest₁ heq hgap
    rcases exists_of_append_eq_append_cons hv with ⟨r, -, hr⟩ | ⟨inside, hv', -⟩
    · -- a brace is no blank
      exact absurd (hblanks '{' (by simp [hr])) (by decide)
    · exact ⟨inside, hv'⟩
  | @keyword rest rest' kw _ =>
    obtain ⟨y, s, hkw, hblank, hne⟩ := exists_keyword_not_blank kw
    rw [hkw, List.cons_append, List.cons_append]
    exact ⟨hcons hblank hne, hcons hblank hne⟩

theorem OpensWithin.append {a : List Char} (h : OpensWithin v (a ++ t)) :
    OpensWithin (v ++ a) t := by
  intro gap rest heq hgap
  rw [List.append_assoc] at heq
  obtain ⟨inside, rfl⟩ := h gap rest heq hgap
  exact ⟨inside ++ a, by simp⟩

end OpensWithin

/-! ### The walk -/

theorem filterMap_cons_eq {α β : Type} (f : α → Option β) (x : α) (l : List α) :
    (x :: l).filterMap f = (f x).toList ++ l.filterMap f := by
  rw [List.filterMap_cons]
  cases f x <;> rfl

section Front

variable {unit : SourceUnit} {pre a w t gap rest : List Char} {b : Block}

/-- Where a block begins at the seam, a head in front of the seam ends in front of it too. -/
theorem HeadText.IsTaken.exists_of_append {p : HeadText} {list : Option (List Char)}
    {v ahead : List Char} (hp : p.IsTaken list ahead) (hgap : ∀ x ∈ gap, isBlank x = true)
    (hrest : StartsList rest) {s : List Char} (hbefore : v ++ gap = p.text ++ s)
    (hbehind : ahead = s ++ rest) : ∃ v', v = p.text ++ v' := by
  rcases List.append_eq_append_iff.mp hbefore with ⟨r, hr, rfl⟩ | ⟨v', rfl, -⟩
  · rcases List.eq_nil_or_concat r with rfl | ⟨r, y, rfl⟩
    · exact ⟨[], by simpa using hr.symm⟩
    · -- the head would end in one of the blanks
      have hstarts : StartsList ahead := by
        subst hbehind
        cases s with
        | nil => exact hrest
        | cons x s => exact startsList_of_isBlank (hgap x (by simp)) _
      obtain ⟨front, z, htext, hz⟩ := hp.exists_concat hstarts
      rw [List.concat_eq_append, ← List.append_assoc, htext] at hr
      obtain ⟨-, hzy⟩ := List.append_inj' hr rfl
      obtain rfl := (List.cons.inj hzy).1
      rw [hgap z (by simp)] at hz
      exact nomatch hz
  · exact ⟨v', rfl⟩

/-- The walk passes over a stretch without words. -/
theorem blocks_typeScanner_skip (unit : SourceUnit) {s : List Char}
    (hs : ∀ x ∈ s, isWordChar x = false) (pre post : List Char) :
    ((typeScanner unit).moveTo (Cursor.between pre (s ++ post))).blocks =
      ((typeScanner unit).moveTo (Cursor.between (pre ++ s) post)).blocks := by
  refine Scanner.blocks_moveTo_eq (Cursor.between_le_between pre s post) fun e hle hlt => ?_
  obtain ⟨s₁, s₂, rfl, hs₂, rfl⟩ := Cursor.exists_append_of_le_of_lt hle hlt
  obtain ⟨x, s₂, rfl⟩ := List.exists_cons_of_ne_nil hs₂
  exact matchAt?_typePattern_of_not_word rfl (hs x (by simp))

/-- Over a stretch in front of the seam in which nothing is matched the other walk passes too. -/
theorem readsTypes_skip_of_seam {post post' : List Char} (hseam : Seam pre post post')
    {u s v : List Char} (hpre : u ++ s ++ v = pre)
    (hnone : ∀ e, Cursor.between u (s ++ (v ++ post)) ≤ e → e < Cursor.between (u ++ s) (v ++ post) →
      typePattern.matchAt? e = none) {ys : List TypeDecl}
    (h : ReadsTypes unit (Cursor.between (u ++ s) (v ++ post')) ys) :
    ReadsTypes unit (Cursor.between u (s ++ (v ++ post'))) ys := by
  refine Scanner.reads_skip (Cursor.between_le_between u s _) (fun e hle hlt => ?_) h
  obtain ⟨s₁, s₂, rfl, hs₂, rfl⟩ := Cursor.exists_append_of_le_of_lt hle hlt
  have hhere := hnone (Cursor.between (u ++ s₁) (s₂ ++ (v ++ post)))
    (by simpa using Cursor.between_le_between u s₁ (s₂ ++ (v ++ post)))
    (by simpa using Cursor.between_lt_between (u ++ s₁) (v ++ post) hs₂)
  rw [← List.append_assoc] at hhere ⊢
  exact matchAt?_eq_none_of_seam hseam (List.append_ne_nil_of_left_ne_nil hs₂ v)
    (by simpa using hpre) hhere

/-- A type that is matched in front of the seam has a head that ends there too, if the match ends
in front of the block at the seam. -/
theorem exists_head_in_front {post u v : List Char} {m : Match}
    (hmatch : typePattern.matchAt? m.start = some m) (hle : Cursor.between u (v ++ post) ≤ m.start)
    (hlt : m.start < Cursor.between (u ++ v) post) (hgap : ∀ x ∈ gap, isBlank x = true)
    (hrest : StartsList rest) (hstop : m.stop ≤ Cursor.between (u ++ v ++ gap) rest) :
    ∃ (s v' : List Char) (p : HeadText) (list : Option (List Char)), v = s ++ (p.text ++ v') ∧
      m.start = Cursor.between (u ++ s) (p.text ++ (v' ++ post)) ∧
      Cursor.headIsWord (u ++ s).reverse = false ∧ p.IsTaken list (v' ++ post) ∧
      p.IsMatch list (u ++ s) (v' ++ post) m := by
  obtain ⟨s, v, rfl, -, hplace⟩ := Cursor.exists_append_of_le_of_lt hle hlt
  obtain ⟨hword, p, list, ahead, hahead, hp, hm⟩ := exists_isMatch_of_matchAt? hmatch
  rw [hplace, Cursor.before_between] at hword hm
  rw [List.reverse_reverse] at hm
  rw [hplace, Cursor.rest_between] at hahead
  rw [hm.stop_eq] at hstop
  obtain ⟨r, hr, hbefore⟩ := hstop
  have hcut : v ++ gap = p.text ++ r := by
    have hfront := congrArg List.reverse hbefore
    rw [Cursor.before_between, Cursor.before_between, List.reverse_reverse, List.reverse_append,
      List.reverse_reverse, List.reverse_reverse] at hfront
    simpa using hfront
  obtain ⟨v, rfl⟩ := hp.exists_of_append hgap hrest hcut hr
  rw [List.append_assoc] at hahead hplace
  obtain rfl : v ++ post = ahead := List.append_cancel_left hahead
  exact ⟨s, v, p, list, rfl, hplace, hword, hp, hm⟩

/-- A block in front of the seam declares with the text put in what it declares without it, and the
other walk reads it too. -/
theorem exists_reads_in_front (hw : ∀ x ∈ w, x ≠ '{' ∧ x ≠ '}')
    (hseam : Seam pre (a ++ t) (a ++ (w ++ t))) {u s v : List Char} {p : HeadText}
    {list : Option (List Char)} (hpre : u ++ s ++ p.text ++ v = pre)
    (hword : Cursor.headIsWord (u ++ s).reverse = false) (hp : p.IsTaken list (v ++ (a ++ t)))
    (hm : p.IsMatch list (u ++ s) (v ++ (a ++ t)) b.keyword)
    (hbraces : bracesAt b.keyword.stop = .ok b.braces)
    (hnone : ∀ e, Cursor.between u (s ++ (p.text ++ v ++ (a ++ t))) ≤ e →
      e < Cursor.between (u ++ s) (p.text ++ v ++ (a ++ t)) → typePattern.matchAt? e = none) :
    ∃ xs, List.Forall₂ (TypeDecl.Inserted w (Text.byteLength (pre ++ a)))
        (typeOfBlock? unit b).toList xs ∧
      ∀ ys, ReadsTypes unit (Cursor.between (u ++ s ++ p.text) (v ++ (a ++ (w ++ t)))) ys →
        ReadsTypes unit (Cursor.between u (s ++ (p.text ++ v ++ (a ++ (w ++ t))))) (xs ++ ys) := by
  obtain ⟨m, hmatch, hm'⟩ := (hp.of_seam hseam ⟨_, hpre⟩).exists_matchAt? hword
  have hopens := hseam.head.opensWithin v
  obtain ⟨braces, hbraces', hblock⟩ := @HeadText.IsMatch.exists_inserted unit p list (u ++ s)
    (v ++ a) w t b.keyword m b.braces hw (by rwa [List.append_assoc])
    (by rwa [List.append_assoc]) hopens.1.append hopens.2.append hbraces
  have hplace : u ++ s ++ p.text ++ (v ++ a) = pre ++ a := by
    rw [← List.append_assoc, hpre]
  rw [hplace] at hblock
  refine ⟨_, hblock, fun ys hys => ?_⟩
  rw [← hm'.stop_eq] at hys
  have hread := Scanner.reads_block (f := typeOfBlock? unit) (b := ⟨m, braces⟩) hmatch
    (start_lt_stop_of_advances rfl hmatch) hbraces' hys
  rw [← List.append_assoc p.text] at hread
  exact readsTypes_skip_of_seam hseam (by rw [← hpre]; simp) hnone hread

/-- **The walk comes to the seam with the same types**, if a block begins there: with the text put in
it reads in front of the seam the types that it reads without it, and then those that it reads from
the seam on. -/
theorem exists_reads_of_seam (hw : ∀ x ∈ w, x ≠ '{' ∧ x ≠ '}')
    (hseam : Seam pre (a ++ t) (a ++ (w ++ t))) (htext : a ++ t = gap ++ rest)
    (hgap : ∀ x ∈ gap, isBlank x = true) (hstart : b.keyword.start = Cursor.between (pre ++ gap) rest)
    {u v : List Char} (hpre : u ++ v = pre) {bs : List Block} (hb : b ∈ bs)
    (h : ((typeScanner unit).moveTo (Cursor.between u (v ++ (a ++ t)))).blocks = .ok bs) :
    ∃ bs₁ bs₂ xs, bs = bs₁ ++ bs₂ ∧ b ∈ bs₂ ∧
      ((typeScanner unit).moveTo (Cursor.between (pre ++ gap) rest)).blocks = .ok bs₂ ∧
      List.Forall₂ (TypeDecl.Inserted w (Text.byteLength (pre ++ a)))
        (bs₁.filterMap (typeOfBlock? unit)) xs ∧
      ∀ ys, ReadsTypes unit (Cursor.between pre (a ++ (w ++ t))) ys →
        ReadsTypes unit (Cursor.between u (v ++ (a ++ (w ++ t)))) (xs ++ ys) := by
  -- on what stands between the walk and the seam, since a block may begin anywhere in it
  induction hn : v.length using Nat.strongRecOn generalizing u v bs with
  | _ n ih =>
  subst hn
  obtain ⟨hreported, -⟩ := Scanner.isReported_of_mem_moveTo h hb
  obtain ⟨b₁, bs, rfl⟩ := List.exists_cons_of_ne_nil (List.ne_nil_of_mem hb)
  obtain ⟨hleft, hbraces, hmore⟩ := Scanner.exists_of_blocks_cons h
  have hwhole : b₁.keyword.start.text = (Cursor.between pre (a ++ t)).text := by
    rw [← Cursor.text_eq_of_le hleft.le_start, Cursor.text_between, Cursor.text_between, ← hpre,
      List.append_assoc]
  rcases Cursor.lt_or_le_of_text_eq hwhole with hlt | hle
  · -- the first block begins in front of the seam, so the one at the seam is a later one
    have hmem : b ∈ bs := by
      refine (List.mem_cons.mp hb).resolve_left ?_
      rintro rfl
      rw [hstart, htext] at hlt
      exact (Cursor.between_le_between pre gap rest).not_gt hlt
    have hstop : b₁.keyword.stop ≤ Cursor.between (pre ++ gap) rest :=
      hstart ▸ (Scanner.isReported_of_mem_moveTo hmore hmem).2
    have hrest : StartsList rest := startsList_of_matchAt? (hstart ▸ hreported.matchAt)
    subst hpre
    obtain ⟨s, v, p, list, rfl, hplace, hword, hp, hm⟩ :=
      exists_head_in_front hleft.matchAt hleft.le_start hlt hgap hrest hstop
    have hfront : u ++ s ++ p.text ++ v = u ++ (s ++ (p.text ++ v)) := by simp
    obtain ⟨xs₁, hblock, hread⟩ := exists_reads_in_front hw hseam hfront hword hp hm
      hbraces fun e hle hlt => hleft.first e (by simpa using hle) (by simpa [hplace] using hlt)
    have hless : v.length < (s ++ (p.text ++ v)).length := by
      have hpos := List.length_pos_of_ne_nil p.text_ne_nil
      simp only [List.length_append]
      omega
    have hresume : (typeScanner unit).resumeAfter b₁ =
        Cursor.between (u ++ s ++ p.text) (v ++ (a ++ t)) := hm.stop_eq
    rw [hresume] at hmore
    obtain ⟨bs₁, bs₂, xs, rfl, hlater, hbs₂, hxs, hreads⟩ := ih v.length hless hfront hmem hmore rfl
    refine ⟨b₁ :: bs₁, bs₂, xs₁ ++ xs, rfl, hlater, hbs₂, ?_, fun ys hys => ?_⟩
    · rw [filterMap_cons_eq]
      exact List.rel_append hblock hxs
    · rw [List.append_assoc xs₁, List.append_assoc s]
      exact hread _ (hreads ys hys)
  · -- nothing begins in front of the seam
    have hskip : ∀ e, Cursor.between u (v ++ (a ++ t)) ≤ e → e < Cursor.between pre (a ++ t) →
        typePattern.matchAt? e = none :=
      fun e he hlt => hleft.first e he (hlt.trans_le hle)
    subst hpre
    refine ⟨[], b₁ :: bs, [], rfl, hb, ?_, .nil, fun ys hys => ?_⟩
    · rw [← h, Scanner.blocks_moveTo_eq (Cursor.between_le_between u v (a ++ t)) hskip, htext,
        blocks_typeScanner_skip unit fun x hx => isWordChar_of_isBlank (hgap x hx)]
    · have hread := @readsTypes_skip_of_seam unit (u ++ v) _ _ hseam u v [] (by simp) hskip ys
      exact hread hys

end Front
end HeaderSurvey
