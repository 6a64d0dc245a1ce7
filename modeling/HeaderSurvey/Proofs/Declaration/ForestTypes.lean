import HeaderSurvey.Proofs.Declaration.TypeReads

/-!
# The types of a forest are found

The walk over the types reads from the text of a forest exactly the types that the forest lists
(`extractTypes_render`).  It goes into the bodies of types, so it meets the types in the order of
the list, each in front of its members.  Everything else is passed over, because no word for a type
stands in it.
-/

namespace HeaderSurvey

open Pattern

/-! ### The start of a line -/

namespace EndsLine

variable {pre : List Char}

/-- At the start of a line, and behind the blanks there, no word goes on. -/
theorem headIsWord (h : EndsLine pre) (b : Blanks) :
    Cursor.headIsWord (pre ++ b.text).reverse = false := by
  rw [List.reverse_append]
  cases hb : b.text.reverse with
  | cons x s =>
    refine isWordChar_of_isSpaceOrTab (b.all_blank x ?_)
    rw [← List.mem_reverse, hb]
    exact List.mem_cons_self ..
  | nil => exact h.atLineStart.headIsWord

/-- The word in front of a line is not `enum`. -/
theorem isAfterEnum (h : EndsLine pre) (b : Blanks) (post : List Char) :
    isAfterEnum (Cursor.between (pre ++ b.text) post) = false := by
  have hblank : ∀ x ∈ b.text.reverse, isBlank x = true := fun x hx =>
    isBlank_of_isSpaceOrTab (b.all_blank x (List.mem_reverse.mp hx))
  rw [HeaderSurvey.isAfterEnum, Cursor.before_between, List.reverse_append,
    List.dropWhile_append_of_pos hblank]
  rcases h with rfl | ⟨s, x, rfl, hx⟩
  · rfl
  · rw [List.reverse_append]
    rcases hx with rfl | rfl | rfl <;> rfl

end EndsLine

/-! ### Prototypes and definitions -/

variable {unit : SourceUnit} {pre post : List Char} {xs : List TypeDecl}

theorem readsTypes_skip_prototype (s : Signature)
    (h : ReadsTypes unit (Cursor.between (pre ++ s.prototype) post) xs) :
    ReadsTypes unit (Cursor.between pre (s.prototype ++ post)) xs := by
  have hfree : TypeFree (s.indent.text ++ (s.text ++ [';'])) := by
    have hend : TypeFree [')', ';'] :=
      @typeFree_append_of_forall [')', ';'] [] (List.all_iff_forall_prop.mp (by decide)) typeFree_nil
    have := typeFree_signature s hend
    simpa [Signature.text] using this
  have hline : s.prototype = s.indent.text ++ (s.text ++ [';']) ++ ['\n'] := by
    simp [Signature.prototype]
  rw [hline] at h ⊢
  exact readsTypes_skip_of_typeFree hfree (by decide) h

theorem readsTypes_skip_definition (s : Signature) (blanks : Blanks) (body : Code)
    (h : ReadsTypes unit (Cursor.between (pre ++ s.definition blanks body) post) xs) :
    ReadsTypes unit (Cursor.between pre (s.definition blanks body ++ post)) xs := by
  have hbody : TypeFree (body.text ++ ['}']) :=
    typeFree_append_cons (by decide) body.typeFree typeFree_nil
  have htail : TypeFree (')' :: (blanks.text ++ '{' :: (body.text ++ ['}']))) := by
    refine typeFree_append_cons (s := []) (by decide) typeFree_nil ?_
    refine typeFree_append_of_forall
      (fun x hx => isWordChar_of_isSpaceOrTab (blanks.all_blank x hx)) ?_
    exact typeFree_append_cons (s := []) (by decide) typeFree_nil hbody
  have hfree := typeFree_signature s htail
  have hline : s.definition blanks body = s.indent.text ++ (s.returnType.text ++ ' ' ::
      (s.name.text ++ '(' :: (s.params.text ++ ')' :: (blanks.text ++ '{' :: (body.text ++
        ['}']))))) ++ ['\n'] := by
    simp [Signature.definition, Signature.text]
  rw [hline] at h ⊢
  exact readsTypes_skip_of_typeFree hfree (by decide) h

/-! ### The head of a type -/

/-- The block of a type is read as the declaration that the forest lists. -/
theorem typeOfBlock?_eq_decl {b : Block} (t : TypeHead) (members : List Char) (hpre : EndsLine pre)
    {post' : List Char} (hm : t.IsMatch (pre ++ t.indent.text) post' b.keyword)
    (hb : b.braces = some (Braces.around (pre ++ t.indent.text ++ t.text) (t.body members) post)) :
    typeOfBlock? unit b = some (t.decl unit.path unit.fileId pre members) := by
  have henum : isAfterEnum b.keyword.start = false := by
    rw [hm.start_eq]
    exact hpre.isAfterEnum t.indent _
  have hkeyword : (if t.keyword.text.toList = "struct".toList then TypeKeyword.structWord
      else TypeKeyword.classWord) = t.keyword := by
    cases t.keyword <;> rfl
  have hstart : b.keyword.start.offset = Text.byteLength (pre ++ t.indent.text) := by
    rw [hm.start_eq, Cursor.offset_between]
  have hline : b.keyword.start.line = (pre ++ t.indent.text).count '\n' + 1 := by
    rw [hm.start_eq, Cursor.line_between]
  have hspan : b.span = ⟨Text.byteLength (pre ++ t.indent.text), Text.byteLength
      (pre ++ t.indent.text ++ t.text ++ ['{'] ++ t.body members ++ ['}'])⟩ := by
    rw [Block.span, Cursor.span, hstart, Block.stop_of_around hb, Cursor.offset_between]
  rw [typeOfBlock?, Block.body?_of_around hb, Block.bodySpan?_of_around hb, henum, hm.keyword_eq,
    hm.name_eq, hm.bases_eq, hline, hspan]
  simp only [Option.bind_eq_bind, Option.bind_some, Bool.false_eq_true, ↓reduceIte, hkeyword]
  rfl

/-- A type is read, and then what is read from the line behind its head on. -/
theorem readsTypes_type (t : TypeHead) {members : List Char} (hpre : EndsLine pre)
    (hmembers : Balanced members)
    (h : ReadsTypes unit (Cursor.between (pre ++ t.opening)
      (members ++ (t.closeIndent.text ++ '}' :: ';' :: '\n' :: post))) xs) :
    ReadsTypes unit (Cursor.between pre (t.item members ++ post))
      (t.decl unit.path unit.fileId pre members :: xs) := by
  have hitem : t.item members ++ post =
      t.indent.text ++ (t.text ++ '{' :: (t.body members ++ '}' :: ';' :: '\n' :: post)) := by
    simp [TypeHead.item]
  rw [hitem]
  apply readsTypes_skip_of_forall
    fun x hx => isWordChar_of_isSpaceOrTab (t.indent.all_blank x hx)
  obtain ⟨m, hmatch, hm⟩ := exists_matchAt?_typeHead t
    (t.body members ++ '}' :: ';' :: '\n' :: post) (hpre.headIsWord t.indent)
  have hb := bracesAt_of_balanced hm.skipWhile_stop (t.balanced_body hmembers)
  -- the walk goes on behind the match, and no word stands between it and the members
  have hreads : ReadsTypes unit m.stop xs := by
    obtain ⟨s, back, htext, -, hback, hstop⟩ := hm.stop_eq
    have hskip : ∀ x ∈ back ++ ['{', '\n'], isWordChar x = false := by
      intro x hx
      rcases List.mem_append.mp hx with hx | hx
      · rw [hback x hx]
        decide
      · exact (List.all_iff_forall_prop.mp (by decide) : ∀ y ∈ ['{', '\n'], isWordChar y = false) x hx
    have hpassed : pre ++ t.indent.text ++ s ++ (back ++ ['{', '\n']) = pre ++ t.opening := by
      simp [TypeHead.opening, htext]
    have hahead : back ++ '{' :: (t.body members ++ '}' :: ';' :: '\n' :: post) =
        back ++ ['{', '\n'] ++ (members ++ (t.closeIndent.text ++ '}' :: ';' :: '\n' :: post)) := by
      simp [TypeHead.body]
    rw [hstop, hahead]
    apply readsTypes_skip_of_forall hskip
    rw [hpassed]
    exact h
  have hblock := Scanner.reads_block (f := typeOfBlock? unit) (b := ⟨m, _⟩) hmatch
    hm.start_lt_stop hb hreads
  rw [typeOfBlock?_eq_decl t members hpre hm rfl] at hblock
  exact hblock

/-! ### All types -/

/-- **The types of a forest are read from its text**, whatever is read from what follows. -/
theorem readsTypes_render (forest : Forest) (hpre : EndsLine pre)
    (h : ReadsTypes unit (Cursor.between (pre ++ forest.render) post) xs) :
    ReadsTypes unit (Cursor.between pre (forest.render ++ post))
      (forest.types unit.path unit.fileId pre ++ xs) := by
  induction forest generalizing pre post xs with
  | empty =>
    rw [Forest.render, List.append_nil] at h
    exact h
  | type t members next hmembers hnext =>
    rw [Forest.render, ← List.append_assoc] at h
    rw [Forest.render, List.append_assoc, Forest.types, List.cons_append, List.append_assoc]
    -- the walk goes on inside the body, so the members come next
    apply readsTypes_type t hpre members.balanced_render
    apply hmembers (t.endsLine_opening pre)
    -- the last line of the type holds no word
    have hclose : ∀ x ∈ t.closeIndent.text ++ ['}', ';', '\n'], isWordChar x = false := by
      intro x hx
      rcases List.mem_append.mp hx with hx | hx
      · exact isWordChar_of_isSpaceOrTab (t.closeIndent.all_blank x hx)
      · exact (List.all_iff_forall_prop.mp (by decide) :
          ∀ y ∈ ['}', ';', '\n'], isWordChar y = false) x hx
    have hahead : t.closeIndent.text ++ '}' :: ';' :: '\n' :: (next.render ++ post) =
        t.closeIndent.text ++ ['}', ';', '\n'] ++ (next.render ++ post) := by simp
    have hpassed : pre ++ t.opening ++ members.render ++ (t.closeIndent.text ++ ['}', ';', '\n']) =
        pre ++ t.item members.render := by
      simp [TypeHead.opening, TypeHead.item, TypeHead.body]
    rw [hahead]
    apply readsTypes_skip_of_forall hclose
    rw [hpassed]
    exact hnext (t.endsLine_item pre members.render) h
  | prototype s next hnext =>
    rw [Forest.render, ← List.append_assoc] at h
    rw [Forest.render, List.append_assoc, Forest.types]
    apply readsTypes_skip_prototype
    exact hnext (s.endsLine_prototype pre) h
  | definition s blanks body next hnext =>
    rw [Forest.render, ← List.append_assoc] at h
    rw [Forest.render, List.append_assoc, Forest.types]
    apply readsTypes_skip_definition
    exact hnext (s.endsLine_definition blanks body pre) h

/-- The types of the text of a forest are those that the forest lists. -/
theorem extractTypes_render (forest : Forest) (path : String) (fileId : Nat) :
    extractTypes ⟨path, String.ofList forest.render, fileId⟩ =
      .ok (forest.types path fileId []) := by
  have hend : ReadsTypes ⟨path, String.ofList forest.render, fileId⟩
      (Cursor.between ([] ++ forest.render) []) [] :=
    Scanner.reads_end _
  have hreads := readsTypes_render forest (Or.inl rfl) hend
  rw [List.append_nil, List.append_nil] at hreads
  refine extractTypes_of_reads ?_
  rw [String.toList_ofList]
  exact hreads

end HeaderSurvey
