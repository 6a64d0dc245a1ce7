import HeaderSurvey.Proofs.Declaration.Framed
import HeaderSurvey.Proofs.Declaration.Nesting
import HeaderSurvey.Proofs.Declaration.Seam
import HeaderSurvey.Proofs.Declaration.TypeName
import HeaderSurvey.Proofs.Pattern.Captured

/-!
# One text behind another

A `SelfContained` text that parses is put in front of any other text.  The whole parses to what the
two texts parse to one behind the other, or to the error of the second (`SourceUnit.parse_append`):
everything of the second text is as much further on as the first is long, and of two types with one
name that of the second text is kept.

Routines are placed among the types of their own text: the bodies of the first text end before the
second begins (`ownerOf?_first`, `ownerOf?_second`).
-/

namespace HeaderSurvey

/-- The declarations of a text that another one follows.  Types whose names the other text declares
too are not kept. -/
def Declarations.followedBy (d d' : Declarations) : Declarations :=
  ⟨d.types.filter (fun t => !d'.types.any (·.name = t.name)) ++ d'.types,
    d.routines ++ d'.routines⟩

variable {path : String} {fileId : Nat} {text next : String} {types types' : List TypeDecl}

/-! ### Types -/

/-- **The types of two texts, one behind the other.** -/
theorem extractTypes_append (htext : SelfContained text.toList)
    (h : extractTypes ⟨path, text, fileId⟩ = .ok types) (next : String) :
    extractTypes ⟨path, text ++ next, fileId⟩ =
      match extractTypes ⟨path, next, fileId⟩ with
      | .ok types' => .ok (types ++ types'.map (TypeDecl.behind text.toList))
      | .error e => .error (e.behind text.toList) := by
  obtain ⟨bs, hbs, rfl⟩ := extractTypes_eq_ok_iff.mp h
  have hblocks := @Scanner.map_blocks_append _ typePattern isLocal_typePattern .afterKeyword fileId
    text.toList htext next.toList bs hbs (typeOfBlock? ⟨path, text ++ next, fileId⟩)
    (typeOfBlock? ⟨path, text, fileId⟩) (typeOfBlock? ⟨path, next, fileId⟩)
    (TypeDecl.behind text.toList)
  rw [extractTypes_eq_map, typeScanner, String.toList_append, hblocks, extractTypes_eq_map,
    typeScanner]
  · cases (Scanner.ofText typePattern .afterKeyword fileId next.toList).blocks <;> rfl
  · intro b hb
    exact typeOfBlock?_inFront _ _ (Scanner.isReported_of_mem_blocks hbs hb).1
  · intro b hb
    exact typeOfBlock?_block _ hb (isAfterEnum_behind htext _)

/-- The bodies of the types of a text lie in the text, and not at its start. -/
theorem bodySpan_bounds {unit : SourceUnit} (h : extractTypes unit = .ok types) {t : TypeDecl}
    (ht : t ∈ types) :
    0 < t.bodySpan.start ∧ t.bodySpan.stop ≤ Text.byteLength unit.text.toList := by
  obtain ⟨bs, hbs, rfl⟩ := extractTypes_eq_ok_iff.mp h
  obtain ⟨b, hb, htype⟩ := List.mem_filterMap.mp ht
  obtain ⟨hreported, hle⟩ := Scanner.isReported_of_mem_blocks hbs hb
  have hspan := bodySpan_of_typeOfBlock? htype
  rcases hbraces : b.braces with _ | braces
  · simp [Block.bodySpan?, Block.body?, hbraces] at hspan
  have hopen := hreported.braces_eq
  rw [hbraces] at hopen
  obtain ⟨pre, body, post, -, rfl, hskip⟩ := bracesAt_eq_some hopen
  rw [Block.bodySpan?_of_around hbraces] at hspan
  rw [← Option.some.inj hspan]
  -- the braces are places of the text, so the text can be read off in front of and behind them
  have hplaces := hle.trans (hreported.start_lt_stop.le.trans
    (Cursor.le_skipWhile isAsciiBlank b.keyword.stop))
  have hunit : unit.text.toList = pre ++ (['{'] ++ (body ++ '}' :: post)) := by
    have := Cursor.text_eq_of_le hplaces
    rw [hskip, Cursor.text_between] at this
    exact this
  have hone : Text.byteLength ['{'] = 1 := rfl
  rw [hunit]
  simp only [Text.byteLength_append, hone]
  omega

/-! ### Scopes -/

/-- Where no body of the second text is, the types of the first decide. -/
theorem ownerOf?_append_left (h : Nested (types ++ types')) {offset : Nat}
    (hoff : ∀ t ∈ types', offset < t.bodySpan.start) :
    (ScopeIndex.ofTypes (types ++ types')).ownerOf? offset =
      (ScopeIndex.ofTypes types).ownerOf? offset := by
  have hfirst : Nested types := (List.pairwise_append.mp h).1
  have hnone := @last?_entries_eq_none types' offset fun t ht => by
    have := hoff t ht
    rw [Span.contains, Bool.and_eq_false_iff, decide_eq_false_iff_not]
    exact Or.inl (by omega)
  rw [h.ownerOf?_eq, hfirst.ownerOf?_eq, ScopeIndex.entries_append, ScopeEntry.last?_append, hnone,
    Option.none_or]

/-- Where no body of the first text is, the types of the second decide. -/
theorem ownerOf?_append_right (h : Nested (types ++ types')) {offset : Nat}
    (hoff : ∀ t ∈ types, t.bodySpan.stop ≤ offset) :
    (ScopeIndex.ofTypes (types ++ types')).ownerOf? offset =
      (ScopeIndex.ofTypes types').ownerOf? offset := by
  have hsecond : Nested types' := (List.pairwise_append.mp h).2.1
  have hnone := @last?_entries_eq_none types offset fun t ht => by
    have := hoff t ht
    rw [Span.contains, Bool.and_eq_false_iff, decide_eq_false_iff_not, decide_eq_false_iff_not]
    exact Or.inr (by omega)
  rw [h.ownerOf?_eq, hsecond.ownerOf?_eq, ScopeIndex.entries_append, ScopeEntry.last?_append,
    hnone, Option.or_none]

/-- Behind a text every offset has the owner that it has without it. -/
theorem ownerOf?_behind {pre : List Char} (h : Nested (types.map (TypeDecl.behind pre)))
    (hnext : Nested types) (offset : Nat) :
    (ScopeIndex.ofTypes (types.map (TypeDecl.behind pre))).ownerOf?
        (offset + Text.byteLength pre) = (ScopeIndex.ofTypes types).ownerOf? offset := by
  rw [h.ownerOf?_eq, hnext.ownerOf?_eq]
  simp only [ScopeEntry.last?, ScopeIndex.entries, List.map_map, ← List.map_reverse,
    List.find?_map, Option.map_map]
  have hcontains : ∀ t : TypeDecl, (t.behind pre).bodySpan.contains (offset + Text.byteLength pre) =
      t.bodySpan.contains offset := fun t => t.bodySpan.contains_shift offset _
  simp only [Function.comp_def, hcontains]
  rfl

section Owners

variable (htext : SelfContained text.toList)
  (htypes : extractTypes ⟨path, text, fileId⟩ = .ok types)
  (htypes' : extractTypes ⟨path, next, fileId⟩ = .ok types')
include htext htypes htypes'

theorem nested_append : Nested (types ++ types'.map (TypeDecl.behind text.toList)) := by
  refine @extractTypes_nested ⟨path, text ++ next, fileId⟩ _ ?_
  rw [extractTypes_append htext htypes next, htypes']

/-- The places of the first text have the owners that they have in it. -/
theorem ownerOf?_first {offset : Nat} (hoffset : offset ≤ Text.byteLength text.toList) :
    (ScopeIndex.ofTypes (types ++ types'.map (TypeDecl.behind text.toList))).ownerOf? offset =
      (ScopeIndex.ofTypes types).ownerOf? offset := by
  refine ownerOf?_append_left (nested_append htext htypes htypes') fun t ht => ?_
  obtain ⟨u, hu, rfl⟩ := List.mem_map.mp ht
  have hstart : 0 < u.bodySpan.start := (bodySpan_bounds htypes' hu).1
  simp only [TypeDecl.behind, Span.shift]
  omega

/-- The places of the second text have the owners that they have in it. -/
theorem ownerOf?_second (offset : Nat) :
    (ScopeIndex.ofTypes (types ++ types'.map (TypeDecl.behind text.toList))).ownerOf?
        (offset + Text.byteLength text.toList) = (ScopeIndex.ofTypes types').ownerOf? offset := by
  have hnested := nested_append htext htypes htypes'
  rw [← ownerOf?_behind (List.pairwise_append.mp hnested).2.1 (extractTypes_nested htypes')]
  refine ownerOf?_append_right hnested fun t ht => ?_
  have hstop : t.bodySpan.stop ≤ Text.byteLength text.toList := (bodySpan_bounds htypes ht).2
  omega

end Owners

/-! ### Routines -/

/-- **The routines of two texts, one behind the other**, each in the scope that it has in its own
text. -/
theorem extractRoutines_append (htext : SelfContained text.toList)
    (htypes : extractTypes ⟨path, text, fileId⟩ = .ok types)
    (htypes' : extractTypes ⟨path, next, fileId⟩ = .ok types') {routines : List Routine}
    (h : extractRoutines ⟨path, text, fileId⟩ (ScopeIndex.ofTypes types) = .ok routines) :
    extractRoutines ⟨path, text ++ next, fileId⟩
        (ScopeIndex.ofTypes (types ++ types'.map (TypeDecl.behind text.toList))) =
      match extractRoutines ⟨path, next, fileId⟩ (ScopeIndex.ofTypes types') with
      | .ok routines' => .ok (routines ++ routines'.map (Routine.behind text.toList))
      | .error e => .error (e.behind text.toList) := by
  obtain ⟨bs, hbs, rfl⟩ := extractRoutines_eq_ok_iff.mp h
  have hblocks := @Scanner.map_blocks_append _ routinePattern isLocal_routinePattern .afterBlock
    fileId text.toList htext next.toList bs hbs
    (routineOfBlock? (ScopeIndex.ofTypes (types ++ types'.map (TypeDecl.behind text.toList))))
    (routineOfBlock? (ScopeIndex.ofTypes types)) (routineOfBlock? (ScopeIndex.ofTypes types'))
    (Routine.behind text.toList)
  rw [extractRoutines_eq_map, routineScanner, String.toList_append, hblocks, extractRoutines_eq_map,
    routineScanner]
  · cases (Scanner.ofText routinePattern .afterBlock fileId next.toList).blocks <;> rfl
  · intro b hb
    refine routineOfBlock?_inFront _
      (Scanner.selfContained_of_mem_blocks isLocal_routinePattern htext hbs hb) ?_
    intro start stop hcapture
    -- the return type begins at a place of the first text
    obtain ⟨hreported, hle⟩ := Scanner.isReported_of_mem_blocks hbs hb
    have hstart := (Pattern.takenUnder_of_capture? hreported.matchAt hcapture).2.1
    have hoffset := start.offset_le_byteLength_text
    rw [← Cursor.text_eq_of_le (hle.trans hstart)] at hoffset
    exact ownerOf?_first htext htypes htypes' hoffset
  · intro b _
    refine routineOfBlock?_block trivial (fun _ _ => trivial) ?_
    intro start stop _
    exact ownerOf?_second htext htypes htypes' start.offset

/-! ### Declarations -/

/-- **Scanning is local.**  Let a text end in a semicolon and a newline, hold neither a slash nor
the word `template`, and parse.  Behind it any other text fails as it fails alone, and if it does
not fail, the whole declares what the two texts declare, one behind the other: the error and the
declarations of the second text are further on by the bytes and the newlines of the first. -/
theorem SourceUnit.parse_append (path : String) (fileId : Nat) {text : String}
    (htext : SelfContained text.toList) {d : Declarations}
    (h : (⟨path, text, fileId⟩ : SourceUnit).parse .typesAndRoutines = .ok d) (next : String) :
    (⟨path, text ++ next, fileId⟩ : SourceUnit).parse .typesAndRoutines =
      match (⟨path, next, fileId⟩ : SourceUnit).parse .typesAndRoutines with
      | .error e => .error (e.behind text.toList)
      | .ok d' => .ok (d.followedBy (d'.behind text.toList)) := by
  obtain ⟨types, htypes, hkept, hroutines⟩ := parse_typesAndRoutines_eq_ok h
  rw [parse, extractTypes_append htext htypes next, parse]
  rcases htypes' : extractTypes ⟨path, next, fileId⟩ with e | types'
  · rfl
  dsimp only
  rw [extractRoutines_append htext htypes htypes' hroutines]
  rcases extractRoutines ⟨path, next, fileId⟩ (ScopeIndex.ofTypes types') with e | routines'
  · rfl
  -- the second text declares the names of the types that are kept of it
  have hall : ∀ name, (types'.map (TypeDecl.behind text.toList)).any (·.name = name) =
      types'.any (·.name = name) := fun name => List.any_map
  have hnames : ∀ name, ((keepLast types').map (TypeDecl.behind text.toList)).any (·.name = name) =
      types'.any (·.name = name) := fun name => List.any_map.trans (any_keepLast types' name)
  rw [keepLast_append, keepLast_map (f := TypeDecl.behind text.toList) (fun _ => rfl), ← hkept]
  simp only [Declarations.followedBy, Declarations.behind, hall, hnames]

/-- The second text declares one of the two types again: that of the first text is not kept, but its
routine stays where it is. -/
theorem SourceUnit.parse_append_replaced :
    let text := "struct A \x7b\n int f();\n\x7d;\nstruct C \x7b \x7d;\n"
    let next := "struct A : B \x7b\n void g(int x);\n\x7d;\nint h();\n"
    let first : Declarations :=
      { types := [⟨.structWord, "A", [], "a.h", 0, 1, ⟨0, 22⟩, ⟨10, 21⟩, "\n int f();\n"⟩,
          ⟨.structWord, "C", [], "a.h", 0, 4, ⟨24, 36⟩, ⟨34, 35⟩, " "⟩]
        routines := [⟨"f", "int", "", .type "A", 12, 2⟩] }
    let whole : Declarations :=
      { types := [⟨.structWord, "C", [], "a.h", 0, 4, ⟨24, 36⟩, ⟨34, 35⟩, " "⟩,
          ⟨.structWord, "A", ["B"], "a.h", 0, 5, ⟨38, 70⟩, ⟨52, 69⟩, "\n void g(int x);\n"⟩]
        routines := [⟨"f", "int", "", .type "A", 12, 2⟩, ⟨"g", "void", "int x", .type "A", 54, 6⟩,
          ⟨"h", "int", "", .file, 72, 8⟩] }
    SelfContained text.toList ∧
      (⟨"a.h", text, 0⟩ : SourceUnit).parse .typesAndRoutines = .ok first ∧
      (⟨"a.h", text ++ next, 0⟩ : SourceUnit).parse .typesAndRoutines = .ok whole := by
  intro text next first whole
  have htext : SelfContained text.toList := ⟨by decide, by decide, by decide⟩
  have hfirst : (⟨"a.h", text, 0⟩ : SourceUnit).parse .typesAndRoutines = .ok first := by
    decide +kernel
  refine ⟨htext, hfirst, ?_⟩
  rw [parse_append "a.h" 0 htext hfirst next]
  decide +kernel

end HeaderSurvey
