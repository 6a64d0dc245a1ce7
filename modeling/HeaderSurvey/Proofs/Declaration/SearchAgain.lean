import HeaderSurvey.Proofs.Declaration.RoutinePieces

/-!
# Searching a block again

A block of a walk is known by the byte offsets at which it begins and ends.  Whoever has only these
can search the text again for the pattern, from the first byte of the block on
(`Pattern.searchAt?`), and take the captures from there.  This module shows that the second search
finds what the first one found.

* `Pattern.find?_start`: a match is found from its own start on.  It does not matter how far in
  front of it the first search began, since a place knows what stands in front of it.
* `Scanner.searchAt?_of_mem_results`: from its start on, every block of a walk is found again, with
  the same end and the same captures.
* `SourceUnit.blocks_found_again`: so the types and routines of a unit are those that a second
  search for each block gives, and no block is lost on the way.
-/

namespace HeaderSurvey

open Pattern

/-! ### The place at a byte offset -/

namespace Cursor

/-- The place `n` bytes further on, if no character is cut in two there. -/
def atOffsetFrom? (before : List Char) : List Char → Nat → Option Cursor
  | [], n => if n = 0 then some ⟨before, []⟩ else none
  | x :: rest, n =>
    if n = 0 then some ⟨before, x :: rest⟩
    else if x.utf8Size ≤ n then atOffsetFrom? (x :: before) rest (n - x.utf8Size)
    else none

/-- The place of the text at a byte offset. -/
def atOffset? (text : List Char) (n : Nat) : Option Cursor :=
  atOffsetFrom? [] text n

theorem atOffsetFrom?_zero (before rest : List Char) :
    atOffsetFrom? before rest 0 = some ⟨before, rest⟩ := by
  cases rest <;> rfl

/-- Behind some characters stands the place that is as many bytes further on as they take. -/
theorem atOffsetFrom?_append (before s rest : List Char) :
    atOffsetFrom? before (s ++ rest) (Text.byteLength s) = some ⟨s.reverse ++ before, rest⟩ := by
  induction s generalizing before with
  | nil => exact atOffsetFrom?_zero before rest
  | cons x s ih =>
    have hpos := x.utf8Size_pos
    rw [List.cons_append, atOffsetFrom?, Text.byteLength, if_neg (by omega),
      if_pos (Nat.le_add_right _ _), Nat.add_sub_cancel_left, ih, List.reverse_cons,
      List.append_assoc, List.singleton_append]

/-- Every place stands at its own offset. -/
theorem atOffset?_offset (c : Cursor) : atOffset? c.text c.offset = some c := by
  have h := atOffsetFrom?_append [] c.before.reverse c.rest
  rwa [Text.byteLength_reverse, List.reverse_reverse, List.append_nil] at h

end Cursor

/-! ### Searching from another place -/

namespace Pattern

/-- The leftmost match at or behind a byte offset. -/
def searchAt? (p : Pattern) (text : List Char) (offset : Nat) : Option Match :=
  (Cursor.atOffset? text offset).bind p.find?

variable {p : Pattern} {c : Cursor} {m : Match}

theorem searchAt?_offset (p : Pattern) (c : Cursor) : p.searchAt? c.text c.offset = p.find? c := by
  rw [searchAt?, Cursor.atOffset?_offset, Option.bind_some]

/-- A match is found from its own start on. -/
theorem find?_start (h : p.matchAt? c = some m) : p.find? c = some m := by
  have hstart := (matchAt?_eq_some_iff.mp h).1
  rw [find?_eq_some_iff]
  -- no place stands between the place itself and the start of the match
  refine ⟨hstart.ge, by rwa [hstart], fun e hle hlt => ?_⟩
  rw [hstart] at hlt
  exact absurd hle hlt.not_ge

/-- What a match has kept lies inside of it. -/
theorem le_of_capture? (h : p.matchAt? c = some m) {i : Nat} {a e : Cursor}
    (hcapture : m.capture? i = some (a, e)) : m.start ≤ a ∧ a ≤ e ∧ e ≤ m.stop := by
  obtain ⟨⟨q, -, g, f, hway⟩, hstart, hstop⟩ := takenUnder_of_capture? h hcapture
  rw [(matchAt?_eq_some_iff.mp h).1]
  exact ⟨hstart, hway.le, hstop⟩

end Pattern

/-! ### Blocks that are found again -/

namespace Block

/-- The block with what a second search from its first byte on has found. -/
def searchedAgain? (p : Pattern) (text : List Char) (b : Block) : Option Block :=
  (p.searchAt? text b.span.start).map fun m => { b with keyword := m }

/-- A second search from the first byte of the block on finds the match of the first one, with the
same ends and the same captures.  All captures are stretches of the text between these ends, and
those under the numbers `groups` are there. -/
structure FoundAgain (p : Pattern) (text : List Char) (groups : List Nat) (b : Block) : Prop where
  search : p.searchAt? text b.span.start = some b.keyword
  span_start : b.keyword.span.start = b.span.start
  start_lt_stop : b.keyword.span.start < b.keyword.span.stop
  inside : ∀ i a e, b.keyword.capture? i = some (a, e) → a.text = text ∧ e.text = text ∧
    b.keyword.span.start ≤ a.offset ∧ a.offset ≤ e.offset ∧ e.offset ≤ b.keyword.span.stop
  kept : ∀ i ∈ groups, (b.keyword.capture? i).isSome = true

variable {p : Pattern} {text : List Char} {groups : List Nat} {b : Block}

theorem IsReported.searchAt? (hb : b.IsReported p) (htext : b.keyword.start.text = text) :
    p.searchAt? text b.span.start = some b.keyword := by
  rw [← htext, span, Cursor.span, searchAt?_offset]
  exact find?_start hb.matchAt

/-- A block that a walk reports is found again. -/
theorem IsReported.foundAgain (hb : b.IsReported p) (htext : b.keyword.start.text = text)
    (hkept : ∀ i ∈ groups, (b.keyword.capture? i).isSome = true) :
    b.FoundAgain p text groups := by
  refine ⟨hb.searchAt? htext, rfl, Cursor.offset_lt_of_lt hb.start_lt_stop, ?_, hkept⟩
  intro i a e hcapture
  obtain ⟨ha, hae, he⟩ := le_of_capture? hb.matchAt hcapture
  have ha_text : a.text = text := (Cursor.text_eq_of_le ha).symm.trans htext
  exact ⟨ha_text, (Cursor.text_eq_of_le hae).symm.trans ha_text, Cursor.offset_le_of_le ha,
    Cursor.offset_le_of_le hae, Cursor.offset_le_of_le he⟩

end Block

namespace Scanner

variable {p : Pattern} {resume : Resume} {fileId : Nat} {text : List Char} {b : Block}

/-- Every block of a walk over a text is reported, and at a place of the text. -/
theorem isReported_of_mem_results_ofText (hb : .ok b ∈ (ofText p resume fileId text).results) :
    b.IsReported p ∧ b.keyword.start.text = text := by
  obtain ⟨hreported, c, hc, hle⟩ := isReported_of_mem_results hb
  obtain rfl := Option.some.inj hc
  exact ⟨hreported, (Cursor.text_eq_of_le hle).symm⟩

/-- **A second search finds every block of a walk again**, whatever the pattern is. -/
theorem searchAt?_of_mem_results (hb : .ok b ∈ (ofText p resume fileId text).results) :
    p.searchAt? text b.span.start = some b.keyword := by
  obtain ⟨hreported, htext⟩ := isReported_of_mem_results_ofText hb
  exact hreported.searchAt? htext

end Scanner

/-! ### Types and routines -/

theorem Match.isSome_capture?_of_captured? {m : Match} {i : Nat} {s : List Char}
    (h : m.captured? i = some s) : (m.capture? i).isSome = true := by
  rw [Match.captured?, Option.map_eq_some_iff] at h
  obtain ⟨ends, hcapture, -⟩ := h
  rw [hcapture, Option.isSome_some]

/-- A match of the head of a type has kept the keyword and the name. -/
theorem isSome_capture?_typePattern {c : Cursor} {m : Match} (h : typePattern.matchAt? c = some m) :
    ∀ i ∈ [1, 2], (m.capture? i).isSome = true := by
  obtain ⟨kw, blanks, name, tail, hpieces⟩ := exists_headPieces h
  simp only [List.forall_mem_cons, List.not_mem_nil, false_implies, implies_true, and_true]
  exact ⟨Match.isSome_capture?_of_captured? hpieces.keyword_eq,
    Match.isSome_capture?_of_captured? hpieces.name_eq⟩

/-- A match of the line of a prototype has kept the return type, the marks, the name and the
parameters. -/
theorem isSome_capture?_routinePattern {c : Cursor} {m : Match}
    (h : routinePattern.matchAt? c = some m) :
    ∀ i ∈ [1, 2, 3, 4], (m.capture? i).isSome = true := by
  obtain ⟨start, returnType, marks, name, gap, params, qualifiers, hline⟩ := exists_linePieces h
  obtain ⟨stop, hreturn, -⟩ := hline.returnType_eq
  simp only [List.forall_mem_cons, List.not_mem_nil, false_implies, implies_true, and_true]
  exact ⟨Option.isSome_of_eq_some hreturn, Match.isSome_capture?_of_captured? hline.marks_eq,
    Match.isSome_capture?_of_captured? hline.name_eq,
    Match.isSome_capture?_of_captured? hline.params_eq⟩

/-- The block declares a type unless it has no body or stands behind the word `enum`. -/
theorem isSome_typeOfBlock?_iff {unit : SourceUnit} {b : Block} (hb : b.IsReported typePattern) :
    (typeOfBlock? unit b).isSome = true ↔
      b.braces.isSome = true ∧ isAfterEnum b.keyword.start = false := by
  obtain ⟨kw, blanks, name, tail, hpieces⟩ := exists_headPieces hb.matchAt
  rw [typeOfBlock?, Block.bodySpan?, Block.body?, hpieces.keyword_eq, hpieces.name_eq]
  cases b.braces with
  | none => exact iff_of_false Bool.false_ne_true fun h => Bool.false_ne_true h.1
  | some braces =>
    cases isAfterEnum b.keyword.start with
    | true => exact iff_of_false Bool.false_ne_true fun h => Bool.false_ne_true h.2.symm
    | false => exact iff_of_true rfl ⟨rfl, rfl⟩

/-- The block declares a routine unless it is a definition, no semicolon stands behind it, or it is
a statement. -/
theorem isSome_routineOfBlock?_iff {index : ScopeIndex} {b : Block}
    (hb : b.IsReported routinePattern) :
    (routineOfBlock? index b).isSome = true ↔ b.braces = none ∧
      (Text.trimStart b.keyword.stop.rest).head? = some ';' ∧
      ∀ returnType name, b.keyword.captured? 1 = some returnType →
        b.keyword.captured? 3 = some name → isStatement returnType name = false := by
  constructor
  · intro h
    obtain ⟨r, hr⟩ := Option.isSome_iff_exists.mp h
    obtain ⟨hbraces, hsemicolon, start, stop, _, name, _, hcapture, -, hname, -, hstatement, -⟩ :=
      exists_of_routineOfBlock? hr
    refine ⟨hbraces, hsemicolon, fun returnType name' hreturn hname' => ?_⟩
    rw [Match.captured?, hcapture] at hreturn
    obtain rfl := Option.some.inj (hname.symm.trans hname')
    obtain rfl := Option.some.inj hreturn
    exact hstatement
  · rintro ⟨hbraces, hsemicolon, hstatement⟩
    -- the captures are there, since the match is the line of a prototype
    obtain ⟨start, returnType, marks, name, gap, params, qualifiers, hline⟩ :=
      exists_linePieces hb.matchAt
    obtain ⟨stop, hcapture, hreturn⟩ := hline.returnType_eq
    have hcaptured : b.keyword.captured? 1 = some returnType := by
      rw [Match.captured?, hcapture, ← hreturn]
      rfl
    have hnone := hstatement returnType name.text hcaptured hline.name_eq
    rw [routineOfBlock?, hbraces, hsemicolon, hcapture, hline.marks_eq, hline.name_eq,
      hline.params_eq]
    simp only [Option.bind_eq_bind, Option.bind_some, hreturn, hnone]
    rfl

/-- The types of a unit in the order of their keywords, each read from a second search for its
block. -/
def extractTypesAgain (unit : SourceUnit) : Except UnclosedBlock (List TypeDecl) :=
  (typeScanner unit).blocks.map (List.filterMap fun b =>
    (b.searchedAgain? typePattern unit.text.toList).bind (typeOfBlock? unit))

/-- The routines of a unit in order, each read from a second search for its block. -/
def extractRoutinesAgain (unit : SourceUnit) (index : ScopeIndex) :
    Except UnclosedBlock (List Routine) :=
  (routineScanner unit).blocks.map (List.filterMap fun b =>
    (b.searchedAgain? routinePattern unit.text.toList).bind (routineOfBlock? index))

/-- What is read from the blocks of a walk is what is read from the blocks that are found again. -/
theorem Scanner.map_filterMap_searchedAgain? {α : Type} (f : Block → Option α) (p : Pattern)
    (resume : Resume) (fileId : Nat) (text : List Char) :
    (ofText p resume fileId text).blocks.map
        (List.filterMap fun b => (b.searchedAgain? p text).bind f) =
      (ofText p resume fileId text).blocks.map (List.filterMap f) := by
  rcases hbs : (ofText p resume fileId text).blocks with e | bs
  · rfl
  · have hresults := results_of_blocks_eq_ok hbs
    have hagain : ∀ b ∈ bs, (b.searchedAgain? p text).bind f = f b := by
      intro b hb
      have hmem : .ok b ∈ (ofText p resume fileId text).results := by
        rw [hresults]
        exact List.mem_map_of_mem hb
      rw [Block.searchedAgain?, searchAt?_of_mem_results hmem, Option.map_some, Option.bind_some]
    exact congrArg Except.ok (List.filterMap_congr hagain)

/-- **Every block that a walk over the types or the routines of a text reports is found again by a
second search from its first byte on.**  The second match has the ends of the first and the same
captures; all of these lie between the ends, and the required ones are there.  So what is read from
the second matches are the types and the routines of the unit, and a block is only left out for what
stands at it: a type without a body or behind `enum`, a definition, a line without a semicolon or a
statement. -/
theorem SourceUnit.blocks_found_again (unit : SourceUnit) :
    (∀ b, .ok b ∈ (typeScanner unit).results →
      b.FoundAgain typePattern unit.text.toList [1, 2] ∧
      ((typeOfBlock? unit b).isSome = true ↔
        b.braces.isSome = true ∧ isAfterEnum b.keyword.start = false)) ∧
    (∀ b, .ok b ∈ (routineScanner unit).results →
      b.FoundAgain routinePattern unit.text.toList [1, 2, 3, 4] ∧
      ∀ index, (routineOfBlock? index b).isSome = true ↔ b.braces = none ∧
        (Text.trimStart b.keyword.stop.rest).head? = some ';' ∧
        ∀ returnType name, b.keyword.captured? 1 = some returnType →
          b.keyword.captured? 3 = some name → isStatement returnType name = false) ∧
    extractTypesAgain unit = extractTypes unit ∧
    ∀ index, extractRoutinesAgain unit index = extractRoutines unit index := by
  refine ⟨fun b hb => ?_, fun b hb => ?_, ?_, fun index => ?_⟩
  · obtain ⟨hreported, htext⟩ := Scanner.isReported_of_mem_results_ofText hb
    exact ⟨hreported.foundAgain htext (isSome_capture?_typePattern hreported.matchAt),
      isSome_typeOfBlock?_iff hreported⟩
  · obtain ⟨hreported, htext⟩ := Scanner.isReported_of_mem_results_ofText hb
    exact ⟨hreported.foundAgain htext (isSome_capture?_routinePattern hreported.matchAt),
      fun index => isSome_routineOfBlock?_iff hreported⟩
  · rw [extractTypes_eq_map]
    exact Scanner.map_filterMap_searchedAgain? (typeOfBlock? unit) typePattern _ _ _
  · rw [extractRoutines_eq_map]
    exact Scanner.map_filterMap_searchedAgain? (routineOfBlock? index) routinePattern _ _ _

/-- The search for the first keyword passes over the end of another word, which the search from the
keyword itself only sees behind it. -/
theorem SourceUnit.blocks_found_again_subclass :
    let unit : SourceUnit := ⟨"a.h", "subclass A \x7b\x7d;\nclass B \x7b int f(); \x7d;\n", 0⟩
    ∃ b, .ok b ∈ (typeScanner unit).results ∧ b.span = ⟨15, 35⟩ ∧ b.keyword.span = ⟨15, 22⟩ ∧
      b.FoundAgain typePattern unit.text.toList [1, 2] ∧
      (typeOfBlock? unit b).isSome = true := by
  intro unit
  have hspans : (typeScanner unit).results.map (fun r => r.toOption.map fun b =>
      (b.span, b.keyword.span, b.braces.isSome, isAfterEnum b.keyword.start)) =
      [some (⟨15, 35⟩, ⟨15, 22⟩, true, false)] := by
    decide +kernel
  obtain ⟨r, hr, hspan⟩ := List.mem_map.mp (hspans.symm ▸ List.mem_singleton_self _)
  rcases r with e | b
  · exact nomatch hspan
  · simp only [Except.toOption, Option.map_some, Option.some.injEq, Prod.mk.injEq] at hspan
    obtain ⟨hspan, hkeyword, hbraces, henum⟩ := hspan
    obtain ⟨hfound, hread⟩ := unit.blocks_found_again.1 b hr
    exact ⟨b, hr, hspan, hkeyword, hfound, hread.mpr ⟨hbraces, henum⟩⟩

end HeaderSurvey
