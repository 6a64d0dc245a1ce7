import HeaderSurvey.Proofs.Declaration.ForestScopes
import HeaderSurvey.Proofs.Declaration.RoutineReads

/-!
# The routines of a forest are found

The walk over the routines reads from the text of a forest its prototypes, in order.  It goes into
the bodies of types, whose first and last lines it passes over, and it passes over the bodies of
definitions together with their signatures.

The scope of a routine is what the index answers at its offset.  `Owned` says what has to hold of
the index for that to be the type around the prototype.
-/

namespace HeaderSurvey

open Pattern

/-! ### Lines of a forest -/

variable {unit : SourceUnit} {index : ScopeIndex} {pre post : List Char} {xs : List Routine}

/-- The line that a type begins with holds no routine. -/
theorem readsRoutines_skip_opening (t : TypeHead)
    (h : ReadsRoutines unit index (Cursor.between (pre ++ t.opening) post) xs) :
    ReadsRoutines unit index (Cursor.between pre (t.opening ++ post)) xs := by
  have hchars : ∀ z ∈ t.indent.text ++ t.text, HeaderSurvey.isHeadChar z = true ∧ z ≠ '\n' := by
    intro z hz
    rcases List.mem_append.mp hz with hz | hz
    · exact ⟨t.indent.isHeadChar hz, fun heq => t.indent.newline_notMem (heq ▸ hz)⟩
    · rcases t.mem_text hz with hz | rfl | rfl | rfl
      · exact ⟨isHeadChar_of_isNameChar hz, ne_of_isNameChar hz (by decide)⟩
      all_goals decide
  obtain ⟨x, s, hs, hx⟩ : ∃ x s, t.text = x :: s ∧ (x = 'c' ∨ x = 's') := by
    rw [TypeHead.text]
    cases t.keyword with
    | classWord => exact ⟨'c', _, rfl, Or.inl rfl⟩
    | structWord => exact ⟨'s', _, rfl, Or.inr rfl⟩
  have hfirst : isSpaceOrTab x = false ∧ x ≠ 'p' ∧ x ≠ 't' := by
    rcases hx with rfl | rfl <;> decide
  have hline : t.opening = t.indent.text ++ t.text ++ ['{'] ++ ['\n'] := by
    simp [TypeHead.opening]
  rw [hline] at h ⊢
  refine readsRoutines_skip_line ?_ ?_ h
  · intro hmem
    rcases List.mem_append.mp hmem with hmem | hmem
    · exact (hchars _ hmem).2 rfl
    · exact absurd hmem (by decide)
  · have hrest : t.indent.text ++ t.text ++ ['{'] ++ ['\n'] ++ post =
        t.indent.text ++ x :: (s ++ '{' :: '\n' :: post) := by simp [hs]
    have hbrace : t.indent.text ++ t.text ++ ['{'] ++ ['\n'] ++ post =
        t.indent.text ++ t.text ++ '{' :: '\n' :: post := by simp
    -- the brace comes before any parenthesis of the members
    exact matchAt?_routinePattern_of_stop (c := Cursor.between _ _) hrest hfirst.1 hfirst.2.1
      hfirst.2.2 hbrace (fun z hz => (hchars z hz).1) (by decide) (by decide)

/-- The line that a type ends with holds no routine. -/
theorem readsRoutines_skip_closing (b : Blanks)
    (h : ReadsRoutines unit index (Cursor.between (pre ++ (b.text ++ ['}', ';', '\n'])) post) xs) :
    ReadsRoutines unit index (Cursor.between pre (b.text ++ ['}', ';', '\n'] ++ post)) xs := by
  have hline : b.text ++ ['}', ';', '\n'] = b.text ++ ['}', ';'] ++ ['\n'] := by simp
  rw [hline] at h ⊢
  refine readsRoutines_skip_line ?_ ?_ h
  · intro hmem
    rcases List.mem_append.mp hmem with hmem | hmem
    · exact b.newline_notMem hmem
    · exact absurd hmem (by decide)
  · have hrest : b.text ++ ['}', ';'] ++ ['\n'] ++ post = b.text ++ '}' :: ';' :: '\n' :: post := by
      simp
    exact matchAt?_routinePattern_of_stop (c := Cursor.between _ _) hrest (by decide) (by decide)
      (by decide) hrest (fun z hz => b.isHeadChar hz) (by decide) (by decide)

/-! ### Prototypes and definitions -/

/-- One blank between the return type and the name. -/
def Marks.blank : Marks where
  first := ' '
  others := []
  first_ok := by decide
  others_ok := by simp

/-- A signature is a line in the form of a prototype. -/
def Signature.line (s : Signature) : RoutineLine where
  indent := s.indent
  returnType := s.returnType
  marks := Marks.blank
  name := s.name
  params := s.params.text
  closed := s.params.closed

theorem Signature.routine_line (s : Signature) (scope : Scope) (pre : List Char) :
    s.line.routine scope pre = s.routine scope pre := by
  have hmarks : Text.trim s.line.marks.text = [] := by
    change Text.trim Marks.blank.text = []
    decide
  have hparams : Text.trim s.line.params = s.params.text := s.params.trimmed
  rw [RoutineLine.routine, hmarks, hparams, List.append_nil]
  rfl

/-- A prototype is read, and then what is read from the next line on. -/
theorem readsRoutines_prototype (s : Signature) (hpre : EndsLine pre)
    (h : ReadsRoutines unit index (Cursor.between (pre ++ s.prototype) post) xs) :
    ReadsRoutines unit index (Cursor.between pre (s.prototype ++ post))
      (s.routine (scopeOf (index.ownerOf? (Text.byteLength (pre ++ s.indent.text)))) pre :: xs) := by
  rw [← s.routine_line]
  exact readsRoutines_line s.line hpre.atLineStart h

/-- A definition is passed over together with its body. -/
theorem readsRoutines_skip_definition (s : Signature) (blanks : Blanks) (body : Code)
    (hpre : EndsLine pre)
    (h : ReadsRoutines unit index (Cursor.between (pre ++ s.definition blanks body) post) xs) :
    ReadsRoutines unit index (Cursor.between pre (s.definition blanks body ++ post)) xs :=
  readsRoutines_skip_body s.line blanks body.balanced hpre.atLineStart h

/-! ### The owners -/

/-- In the text of the forest behind `pre` the index answers with the innermost type of the forest,
or, where there is none, with the type around the forest. -/
def Forest.Owned (forest : Forest) (path : String) (fileId : Nat) (index : ScopeIndex)
    (outer : Option String) (pre : List Char) : Prop :=
  ∀ offset, Text.byteLength pre ≤ offset → offset < Text.byteLength (pre ++ forest.render) →
    index.ownerOf? offset = (forest.ownerOf? path fileId pre offset).or outer

namespace Forest.Owned

variable {path : String} {fileId : Nat} {outer : Option String} {ms next : Forest}

theorem members {t : TypeHead} (h : (Forest.type t ms next).Owned path fileId index outer pre) :
    ms.Owned path fileId index (some (String.ofList t.name.text)) (pre ++ t.opening) := by
  intro offset hle hlt
  have hinside := t.byteLength_members_le path fileId pre ms.render
  have hitem := t.stop_lt_byteLength_item path fileId pre ms.render
  have hrender : Text.byteLength (pre ++ (Forest.type t ms next).render) =
      Text.byteLength (pre ++ t.item ms.render) + Text.byteLength next.render := by
    rw [render, ← List.append_assoc, Text.byteLength_append]
  have hpre : Text.byteLength pre ≤ Text.byteLength (pre ++ t.opening) := by
    rw [Text.byteLength_append]
    omega
  rw [h offset (by omega) (by omega), ownerOf?_type_of_members t ms next hle hlt, Option.or_assoc,
    Option.some_or]

/-- Behind an item the owners are those of the items that follow. -/
theorem of_next {forest : Forest} {item : List Char} (hrender : forest.render = item ++ next.render)
    (howner : ∀ offset, Text.byteLength (pre ++ item) ≤ offset →
      forest.ownerOf? path fileId pre offset = next.ownerOf? path fileId (pre ++ item) offset)
    (h : forest.Owned path fileId index outer pre) :
    next.Owned path fileId index outer (pre ++ item) := by
  intro offset hle hlt
  have hpre : Text.byteLength pre ≤ Text.byteLength (pre ++ item) := by
    rw [Text.byteLength_append]
    omega
  rw [List.append_assoc, ← hrender] at hlt
  rw [h offset (by omega) hlt, howner offset hle]

/-- A prototype in front of all types belongs to the type around the forest. -/
theorem of_prototype {s : Signature}
    (h : (Forest.prototype s next).Owned path fileId index outer pre) :
    index.ownerOf? (Text.byteLength (pre ++ s.indent.text)) = outer := by
  have hlt : Text.byteLength (pre ++ s.indent.text) < Text.byteLength (pre ++ s.prototype) := by
    have hend : Text.byteLength [';', '\n'] = 2 := rfl
    simp only [Signature.prototype, Text.byteLength_append, hend]
    omega
  have hpre : Text.byteLength pre ≤ Text.byteLength (pre ++ s.indent.text) := by
    rw [Text.byteLength_append]
    omega
  have hrender : Text.byteLength (pre ++ (Forest.prototype s next).render) =
      Text.byteLength (pre ++ s.prototype) + Text.byteLength next.render := by
    rw [render, ← List.append_assoc, Text.byteLength_append]
  -- the bodies of the forest begin behind the line of the prototype
  have hnone : (Forest.prototype s next).ownerOf? path fileId pre
      (Text.byteLength (pre ++ s.indent.text)) = none :=
    @ownerOf?_eq_none _ _ (pre ++ s.prototype) _ next (Or.inl (by omega))
  rw [h _ hpre (by omega), hnone, Option.none_or]

end Forest.Owned

/-! ### All routines -/

/-- **The routines of a forest are read from its text**, whatever is read from what follows, if the
index knows the types of the forest. -/
theorem readsRoutines_render {path : String} {fileId : Nat} {outer : Option String}
    (forest : Forest) (hpre : EndsLine pre)
    (howned : forest.Owned path fileId index outer pre)
    (h : ReadsRoutines unit index (Cursor.between (pre ++ forest.render) post) xs) :
    ReadsRoutines unit index (Cursor.between pre (forest.render ++ post))
      (forest.routines (scopeOf outer) pre ++ xs) := by
  induction forest generalizing pre post xs outer with
  | empty =>
    rw [Forest.render, List.append_nil] at h
    exact h
  | type t members next hmembers hnext =>
    rw [Forest.render, ← List.append_assoc] at h
    rw [Forest.routines, List.append_assoc]
    have hahead : (Forest.type t members next).render ++ post = t.opening ++ (members.render ++
        (t.closeIndent.text ++ ['}', ';', '\n'] ++ (next.render ++ post))) := by
      simp [Forest.render, TypeHead.opening, TypeHead.item, TypeHead.body]
    have hpassed : pre ++ t.opening ++ members.render ++ (t.closeIndent.text ++ ['}', ';', '\n']) =
        pre ++ t.item members.render := by
      simp [TypeHead.opening, TypeHead.item, TypeHead.body]
    -- between the first and the last line of the type the walk meets the members, which the type
    -- owns
    rw [hahead]
    apply readsRoutines_skip_opening
    apply hmembers (t.endsLine_opening pre) howned.members
    apply readsRoutines_skip_closing
    rw [hpassed]
    have howned' := howned.of_next rfl fun offset hle =>
      Forest.ownerOf?_type_of_next t members next hle
    exact hnext (t.endsLine_item pre members.render) howned' h
  | prototype s next hnext =>
    rw [Forest.render, ← List.append_assoc] at h
    rw [Forest.render, List.append_assoc, Forest.routines, List.cons_append]
    have hread := readsRoutines_prototype s hpre
      (hnext (s.endsLine_prototype pre) (howned.of_next rfl fun offset _ => rfl) h)
    rw [howned.of_prototype] at hread
    exact hread
  | definition s blanks body next hnext =>
    rw [Forest.render, ← List.append_assoc] at h
    rw [Forest.render, List.append_assoc, Forest.routines]
    apply readsRoutines_skip_definition s blanks body hpre
    exact hnext (s.endsLine_definition blanks body pre) (howned.of_next rfl fun offset _ => rfl) h

/-- The routines of the text of a forest are those that the forest lists, if the index is that of
its types. -/
theorem extractRoutines_render (forest : Forest) (path : String) (fileId : Nat) :
    extractRoutines ⟨path, String.ofList forest.render, fileId⟩
        (ScopeIndex.ofTypes (forest.types path fileId [])) =
      .ok (forest.routines .file []) := by
  have howned : forest.Owned path fileId (ScopeIndex.ofTypes (forest.types path fileId [])) none
      [] := by
    intro offset _ _
    rw [forest.ownerOf?_ofTypes_types, Option.or_none]
  have hend : ReadsRoutines ⟨path, String.ofList forest.render, fileId⟩
      (ScopeIndex.ofTypes (forest.types path fileId []))
      (Cursor.between ([] ++ forest.render) []) [] :=
    Scanner.reads_end _
  have hreads := readsRoutines_render forest (Or.inl rfl) howned hend
  rw [List.append_nil, List.append_nil] at hreads
  refine extractRoutines_of_reads ?_
  rw [String.toList_ofList]
  exact hreads

end HeaderSurvey
