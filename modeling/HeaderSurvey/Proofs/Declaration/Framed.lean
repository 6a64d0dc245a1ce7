import HeaderSurvey.Declaration.Parse
import HeaderSurvey.Proofs.Block.Seam
import HeaderSurvey.Proofs.Text.Replace

/-!
# Declarations in a longer text

A block of a text is the same block when the text gets others in front of it and behind it
(`Frame.block`), and it declares the same: `behind pre` is a declaration that has the text `pre` in
front of it, with its offsets and its line further on (`typeOfBlock?_block`,
`routineOfBlock?_block`).  For a type the word `enum` must not come in from the text in front, and
for a routine the index of scopes must know the places in the longer text.
-/

namespace HeaderSurvey

open Pattern

/-! ### Declarations further on in a text -/

/-- The type behind the text `pre`. -/
def TypeDecl.behind (pre : List Char) (t : TypeDecl) : TypeDecl :=
  { t with
    line := t.line + pre.count '\n'
    span := t.span.shift (Text.byteLength pre)
    bodySpan := t.bodySpan.shift (Text.byteLength pre) }

/-- The routine behind the text `pre`. -/
def Routine.behind (pre : List Char) (r : Routine) : Routine :=
  { r with
    offset := r.offset + Text.byteLength pre
    line := r.line + pre.count '\n' }

/-- What a text declares behind the text `pre`. -/
def Declarations.behind (pre : List Char) (d : Declarations) : Declarations :=
  ⟨d.types.map (TypeDecl.behind pre), d.routines.map (Routine.behind pre)⟩

theorem TypeDecl.behind_nil : TypeDecl.behind [] = id :=
  rfl

theorem Routine.behind_nil : Routine.behind [] = id :=
  rfl

theorem Span.contains_shift (s : Span) (offset n : Nat) :
    (s.shift n).contains (offset + n) = s.contains offset := by
  simp only [Span.contains, Span.shift, Nat.add_le_add_iff_right, Nat.add_lt_add_iff_right]

/-! ### The word in front of a type -/

/-- Behind a text that ends in a semicolon and a newline the word in front of a place is the one
that it is without this text. -/
theorem isAfterEnum_behind {pre : List Char} (hpre : SelfContained pre) (c : Cursor) :
    isAfterEnum ((Frame.behind pre).place c) = isAfterEnum c := by
  obtain ⟨front, hfront⟩ := hpre.exists_reverse_eq
  rw [Frame.place_behind, hfront, isAfterEnum, isAfterEnum, List.dropWhile_append]
  cases hword : c.before.dropWhile isBlank with
  | nil =>
    have hdrop : ('\n' :: ';' :: front).dropWhile isBlank = ';' :: front := rfl
    rw [List.isEmpty_nil, if_pos rfl, hdrop]
    rfl
  | cons x s =>
    -- the newline is not in the word, so it only ends it
    rw [List.isEmpty_cons, if_neg (by decide),
      Text.dropStart?_append_cons (by decide : '\n' ∉ "enum".toList.reverse)]
    rcases Text.dropStart? "enum".toList.reverse (x :: s) with _ | ⟨_ | ⟨y, s⟩⟩ <;> rfl

/-! ### The declaration of a block -/

variable {F : Frame} {b : Block}

/-- **A block declares in a frame the type that it declares without it.** -/
theorem typeOfBlock?_block (unit : SourceUnit) {p : Pattern} (hb : b.IsReported p)
    (henum : isAfterEnum (F.place b.keyword.start) = isAfterEnum b.keyword.start) :
    typeOfBlock? unit (F.block b) = (typeOfBlock? unit b).map (TypeDecl.behind F.pre) := by
  have hstart : (F.block b).keyword.start = F.place b.keyword.start := rfl
  have hcaptured : ∀ i, (F.block b).keyword.captured? i = b.keyword.captured? i :=
    F.captured?_matched b.keyword
  rw [typeOfBlock?, typeOfBlock?, Frame.body?_block, Frame.bodySpan?_block hb, hstart, henum,
    hcaptured, hcaptured, hcaptured, Frame.span_block, Frame.line_place]
  cases b.body? with
  | none => rfl
  | some body =>
    cases b.bodySpan? with
    | none => rfl
    | some bodySpan =>
      simp only [Option.bind_eq_bind, Option.bind_some, Option.map_some]
      split_ifs
      · rfl
      · cases b.keyword.captured? 1 with
        | none => rfl
        | some keyword =>
          cases b.keyword.captured? 2 with
          | none => rfl
          | some name => rfl

/-- In front of more text a block declares the type that it declares without it. -/
theorem typeOfBlock?_inFront (unit : SourceUnit) (post : List Char) {p : Pattern}
    (hb : b.IsReported p) :
    typeOfBlock? unit ((Frame.inFront post).block b) = typeOfBlock? unit b := by
  have henum : isAfterEnum ((Frame.inFront post).place b.keyword.start) =
      isAfterEnum b.keyword.start := by
    rw [Frame.place_inFront]
    rfl
  have hpre : (Frame.inFront post).pre = [] := rfl
  rw [typeOfBlock?_block unit hb henum, hpre, TypeDecl.behind_nil, Option.map_id, id]

/-- **A block declares in a frame the routine that it declares without it**, if the index that goes
with the frame places it in the same type. -/
theorem routineOfBlock?_block {index index' : ScopeIndex} (hstop : F.Inside b.keyword.stop)
    (hblank : ∀ x, isBlank x = true → F.Passes x)
    (howner : ∀ start stop, b.keyword.capture? 1 = some (start, stop) →
      index'.ownerOf? (start.offset + Text.byteLength F.pre) = index.ownerOf? start.offset) :
    routineOfBlock? index' (F.block b) =
      (routineOfBlock? index b).map (Routine.behind F.pre) := by
  have hbraces : (F.block b).braces.isSome = b.braces.isSome := Option.isSome_map
  have hhead : (Text.trimStart (F.block b).keyword.stop.rest).head? =
      (Text.trimStart b.keyword.stop.rest).head? := Frame.head?_dropWhile_place hblank hstop
  have hcapture : (F.block b).keyword.capture? 1 = _ := F.capture?_matched b.keyword 1
  have hcaptured : ∀ i, (F.block b).keyword.captured? i = b.keyword.captured? i :=
    F.captured?_matched b.keyword
  rw [routineOfBlock?, routineOfBlock?, hbraces, hhead, hcapture, hcaptured, hcaptured, hcaptured]
  simp only [Option.bind_eq_bind, Option.bind_none]
  split_ifs
  · rfl
  · rfl
  rcases hreturn : b.keyword.capture? 1 with _ | ⟨start, stop⟩
  · rfl
  simp only [Option.bind_some, Option.map_some, Frame.upTo_place,
    Frame.offset_place, Frame.line_place, howner start stop hreturn]
  cases b.keyword.captured? 2 with
  | none => rfl
  | some marks =>
    cases b.keyword.captured? 3 with
    | none => rfl
    | some name =>
      cases b.keyword.captured? 4 with
      | none => rfl
      | some params =>
        simp only [Option.bind_some]
        split_ifs <;> rfl

/-- In front of more text a block declares the routine that it declares without it. -/
theorem routineOfBlock?_inFront {index index' : ScopeIndex} (post : List Char)
    (hstop : SelfContained b.keyword.stop.rest)
    (howner : ∀ start stop, b.keyword.capture? 1 = some (start, stop) →
      index'.ownerOf? start.offset = index.ownerOf? start.offset) :
    routineOfBlock? index' ((Frame.inFront post).block b) = routineOfBlock? index b := by
  have hblank : ∀ x, isBlank x = true → (Frame.inFront post).Passes x := by
    rintro x hx rfl
    exact absurd hx (by decide)
  have hpre : (Frame.inFront post).pre = [] := rfl
  rw [@routineOfBlock?_block (Frame.inFront post) b index index' hstop hblank howner, hpre,
    Routine.behind_nil, Option.map_id, id]

end HeaderSurvey
