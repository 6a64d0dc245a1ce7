import HeaderSurvey.Declaration.Parse
import HeaderSurvey.Proofs.Declaration.ForestTypes
import HeaderSurvey.Proofs.Wrapper.Lines
import Mathlib.Data.Bool.AllAny

/-!
# Wrappers are read back

The texts of a wrapper go through the same scanner as the headers they are made from.  The main
result, `emitted_read_back`: from the emitted header come the functions of its types, two for each,
and nothing else, and from the emitted source comes nothing.

Both walks take the text of one type after the other.  The walk over the types meets the forward
declaration of the handle only, a keyword and a name without braces: whatever the type is called,
its name stands in front of a parenthesis, and a keyword would need a blank behind it.  The walk
over the routines meets the two prototypes of the header, and the definition in the source, which it
passes over with its body.
-/

namespace HeaderSurvey

/-- What a routine is to its callers, wherever it stands. -/
structure Prototype where
  name : String
  returnType : String
  params : String
  scope : Scope
  deriving Repr, DecidableEq

def Routine.prototype (r : Routine) : Prototype :=
  ⟨r.name, r.returnType, r.params, r.scope⟩

namespace Wrapper

open Pattern

/-! ### No types -/

section Types

variable {unit : SourceUnit} {settings : WrapperSettings} {t : TypeDecl} {pre post : List Char}
  {xs : List TypeDecl}

/-- No type is declared for a type in the header: its handle is only mentioned. -/
theorem readsTypes_headerLines (n : Symbols settings t) (hpre : AtLineStart pre)
    (h : ReadsTypes unit (Cursor.between (pre ++ linesText (headerLines settings t)) post) xs) :
    ReadsTypes unit (Cursor.between pre (linesText (headerLines settings t) ++ post)) xs := by
  have hname : ∀ (m : PlainName), ∀ z ∈ m.text, isBlank z = false :=
    fun m z hz => isBlank_of_isNameChar (m.isNameChar_of_mem hz)
  have hparameter : ∀ z ∈ n.parameter, isBlank z = false :=
    fun z hz => isBlank_of_isNameChar (n.isNameChar_of_mem_parameter hz)
  rw [n.linesText_headerLines_words] at h ⊢
  simp only [← List.append_assoc] at h
  simp only [List.append_assoc]
  refine readsTypes_skip_mention n.mention hpre.headIsWord ?_
  refine readsTypes_skip_of_forall (List.all_iff_forall_prop.mp (by decide)) ?_
  refine readsTypes_skip_of_forall (List.all_iff_forall_prop.mp (by decide)) ?_
  -- every word from here on ends in front of an asterisk or a parenthesis
  refine readsTypes_skip_of_not_blank (hname n.handle) (by decide)
    (List.all_iff_forall_prop.mp (by decide)) ?_
  refine readsTypes_skip_of_not_blank (hname n.create) (by decide)
    (List.all_iff_forall_prop.mp (by decide)) ?_
  refine readsTypes_skip_of_not_blank (hname n.handle) (by decide)
    (List.all_iff_forall_prop.mp (by decide)) ?_
  refine readsTypes_skip_of_not_blank (hname n.destroy) (by decide)
    (List.all_iff_forall_prop.mp (by decide)) ?_
  refine readsTypes_skip_of_not_blank (hname n.handle) (by decide)
    (List.all_iff_forall_prop.mp (by decide)) ?_
  refine readsTypes_skip_of_not_blank hparameter (by decide)
    (List.all_iff_forall_prop.mp (by decide)) ?_
  exact h

/-- No type begins in what the source holds for a type. -/
theorem readsTypes_sourceLines (n : Symbols settings t)
    (h : ReadsTypes unit (Cursor.between (pre ++ linesText (sourceLines settings t)) post) xs) :
    ReadsTypes unit (Cursor.between pre (linesText (sourceLines settings t) ++ post)) xs := by
  have hname : ∀ (m : PlainName), ∀ z ∈ m.text, isBlank z = false :=
    fun m z hz => isBlank_of_isNameChar (m.isNameChar_of_mem hz)
  have htype : ∀ z ∈ t.name.toList, isBlank z = false :=
    fun z hz => isBlank_of_isNameChar (n.typeName.isNameChar_of_mem hz)
  have hreturn : TypeFree "return new".toList := by
    intro kw
    cases kw <;> decide +kernel
  rw [n.linesText_sourceLines_words] at h ⊢
  simp only [← List.append_assoc] at h
  simp only [List.append_assoc]
  refine readsTypes_skip_of_forall (List.all_iff_forall_prop.mp (by decide)) ?_
  refine readsTypes_skip_of_not_blank (hname n.handle) (by decide)
    (List.all_iff_forall_prop.mp (by decide)) ?_
  refine readsTypes_skip_of_not_blank (hname n.create) (by decide)
    (List.all_iff_forall_prop.mp (by decide)) ?_
  rw [← List.append_assoc "return new".toList]
  refine readsTypes_skip_of_typeFree hreturn (by decide) ?_
  rw [← List.append_assoc _ "return new".toList]
  refine readsTypes_skip_of_not_blank htype (by decide)
    (List.all_iff_forall_prop.mp (by decide)) ?_
  exact h

/-- No type begins in the lines of any of the types, if none begins in those of one type. -/
theorem readsTypes_skip_flatMap {types : List TypeDecl} {lines : TypeDecl → List String}
    (hlines : ∀ t ∈ types, ∀ pre post, AtLineStart pre →
      ReadsTypes unit (Cursor.between (pre ++ linesText (lines t)) post) xs →
        ReadsTypes unit (Cursor.between pre (linesText (lines t) ++ post)) xs)
    (hpre : AtLineStart pre)
    (h : ReadsTypes unit (Cursor.between (pre ++ types.flatMap fun t => linesText (lines t)) post)
      xs) :
    ReadsTypes unit (Cursor.between pre ((types.flatMap fun t => linesText (lines t)) ++ post))
      xs := by
  induction types generalizing pre with
  | nil => simpa using h
  | cons t ts ih =>
    rw [List.flatMap_cons, ← List.append_assoc] at h
    rw [List.flatMap_cons, List.append_assoc]
    refine hlines t (List.mem_cons_self ..) pre _ hpre ?_
    exact ih (fun t' ht' => hlines t' (List.mem_cons_of_mem t ht'))
      (atLineStart_linesText hpre (lines t)) h

/-- The fixed lines around the types of the header hold no word for a type. -/
theorem readsTypes_skip_lines {lines : List String} {s : List Char}
    (htext : linesText lines = s ++ ['\n']) (hs : TypeFree s)
    (h : ReadsTypes unit (Cursor.between (pre ++ linesText lines) post) xs) :
    ReadsTypes unit (Cursor.between pre (linesText lines ++ post)) xs := by
  rw [htext] at h ⊢
  exact readsTypes_skip_of_typeFree hs (by decide) h

theorem readsTypes_skip_headerTop
    (h : ReadsTypes unit (Cursor.between (pre ++ linesText headerTop) post) xs) :
    ReadsTypes unit (Cursor.between pre (linesText headerTop ++ post)) xs := by
  have htext : linesText headerTop =
      "#pragma once\n\n#ifdef __cplusplus\nextern \"C\" \x7b\n#endif\n".toList ++ ['\n'] := by
    decide +kernel
  refine readsTypes_skip_lines htext ?_ h
  intro kw
  cases kw <;> decide +kernel

theorem readsTypes_skip_headerBottom
    (h : ReadsTypes unit (Cursor.between (pre ++ linesText headerBottom) post) xs) :
    ReadsTypes unit (Cursor.between pre (linesText headerBottom ++ post)) xs := by
  have htext : linesText headerBottom = "#ifdef __cplusplus\n\x7d\n#endif".toList ++ ['\n'] := by
    decide +kernel
  refine readsTypes_skip_lines htext ?_ h
  intro kw
  cases kw <;> decide +kernel

/-- An include holds no type: its path has no blanks. -/
theorem readsTypes_skip_include {path : List Char} {opening closing : Char}
    (hpath : ∀ x ∈ opening :: path, isBlank x = false) (hclosing : isBlank closing = false)
    (hword : isWordChar closing = false)
    (h : ReadsTypes unit (Cursor.between
      (pre ++ "#include".toList ++ [' '] ++ (opening :: path) ++ [closing, '\n']) post) xs) :
    ReadsTypes unit (Cursor.between pre ("#include".toList ++ ([' '] ++ ((opening :: path) ++
      ([closing, '\n'] ++ post))))) xs := by
  have hfree : TypeFree "#include".toList := by
    intro kw
    cases kw <;> decide +kernel
  rw [← List.append_assoc "#include".toList]
  refine readsTypes_skip_of_typeFree hfree (by decide) ?_
  rw [← List.append_assoc]
  refine readsTypes_skip_of_not_blank hpath hclosing ?_ h
  simpa [hword] using (by decide : isWordChar '\n' = false)

theorem readsTypes_skip_sourceTop {header : String}
    (humbrella : ∀ x ∈ settings.umbrellaHeader.toList, isBlank x = false)
    (hheader : ∀ x ∈ header.toList, isBlank x = false)
    (h : ReadsTypes unit (Cursor.between (pre ++ linesText (sourceTop settings header)) post) xs) :
    ReadsTypes unit (Cursor.between pre (linesText (sourceTop settings header) ++ post)) xs := by
  have hslashes : ∀ x ∈ Text.replaceChar '\\' '/' header.toList, isBlank x = false := by
    intro x hx
    obtain ⟨y, hy, rfl⟩ := List.mem_map.mp hx
    split_ifs
    · decide
    · exact hheader y hy
  have htext : linesText (sourceTop settings header) =
      "#include".toList ++ ([' '] ++ (('<' :: settings.umbrellaHeader.toList) ++ (['>', '\n'] ++
        ("#include".toList ++ ([' '] ++ (('"' :: '.' :: '/' ::
          Text.replaceChar '\\' '/' header.toList) ++ ['"', '\n'])))))) := by
    have hopen : "#include <".toList = "#include".toList ++ [' ', '<'] := rfl
    have hquote : "#include \"./".toList = "#include".toList ++ [' ', '"', '.', '/'] := rfl
    have hclose : ">".toList = ['>'] := rfl
    have hend : "\"".toList = ['"'] := rfl
    simp only [linesText, sourceTop, hopen, hquote, hclose, hend, List.flatMap_cons,
      List.flatMap_nil, String.toList_append, String.toList_ofList, List.append_assoc,
      List.cons_append, List.nil_append]
  rw [htext] at h ⊢
  -- what is skipped goes over to the front, one line after the other
  simp only [← List.append_assoc] at h
  simp only [List.append_assoc]
  refine readsTypes_skip_include ?_ (by decide) (by decide) ?_
  · exact List.forall_mem_cons.mpr ⟨by decide, humbrella⟩
  refine readsTypes_skip_include ?_ (by decide) (by decide) ?_
  · exact List.forall_mem_cons.mpr ⟨by decide, List.forall_mem_cons.mpr ⟨by decide,
      List.forall_mem_cons.mpr ⟨by decide, hslashes⟩⟩⟩
  exact h

end Types

/-! ### Two routines for each type -/

section Routines

variable {unit : SourceUnit} {index : ScopeIndex} {settings : WrapperSettings} {t : TypeDecl}
  {pre post : List Char} {xs : List Routine}

/-- No routine begins on the line, whatever stands around it. -/
def IsQuiet (l : List Char) : Prop :=
  '\n' ∉ l ∧ ∀ pre post, routinePattern.matchAt? (Cursor.between pre (l ++ ['\n'] ++ post)) = none

theorem isQuiet_of_first {x : Char} {s : List Char} (hx : isSpaceOrTab x = false)
    (hname : isNameStart x = false) (hn : '\n' ∉ x :: s) : IsQuiet (x :: s) :=
  ⟨hn, fun _ _ => matchAt?_routinePattern_of_first rfl hx hname⟩

theorem isQuiet_nil : IsQuiet [] :=
  ⟨by simp, fun _ _ => matchAt?_routinePattern_of_first rfl (by decide) (by decide)⟩

theorem emptyLine_quiet : ∀ l ∈ [""], IsQuiet l.toList := by
  intro l hl
  rw [List.mem_singleton.mp hl]
  exact isQuiet_nil

/-- A line with a semicolon or a brace in front of every parenthesis. -/
theorem isQuiet_of_stop {x y : Char} {s t : List Char} (hx : isSpaceOrTab x = false) (hp : x ≠ 'p')
    (ht : x ≠ 't') (hs : ∀ z ∈ x :: s, isHeadChar z = true) (hy : isHeadChar y = false)
    (hne : y ≠ '(') (hn : '\n' ∉ x :: s ++ y :: t) : IsQuiet (x :: s ++ y :: t) := by
  refine ⟨hn, fun pre post => ?_⟩
  have hrest : (x :: s ++ y :: t) ++ ['\n'] ++ post = x :: s ++ y :: (t ++ '\n' :: post) := by simp
  exact @matchAt?_routinePattern_of_stop (Cursor.between pre _) Blanks.none x y (x :: s) _ _ rfl hx
    hp ht hrest hs hy hne

/-- Lines on which no routine begins are passed over. -/
theorem readsRoutines_skip_lines {lines : List String} (hlines : ∀ l ∈ lines, IsQuiet l.toList)
    (h : ReadsRoutines unit index (Cursor.between (pre ++ linesText lines) post) xs) :
    ReadsRoutines unit index (Cursor.between pre (linesText lines ++ post)) xs := by
  induction lines generalizing pre with
  | nil => simpa [linesText] using h
  | cons l ls ih =>
    obtain ⟨hl, hls⟩ := List.forall_mem_cons.mp hlines
    have hcons : linesText (l :: ls) = l.toList ++ ['\n'] ++ linesText ls := rfl
    rw [hcons, ← List.append_assoc] at h
    rw [hcons, List.append_assoc]
    exact readsRoutines_skip_line hl.1 (hl.2 pre _) (ih hls h)

theorem headerTop_quiet : ∀ l ∈ headerTop, IsQuiet l.toList := by
  intro l hl
  simp only [headerTop, List.mem_cons, List.not_mem_nil, or_false] at hl
  rcases hl with rfl | rfl | rfl | rfl | rfl | rfl
  · exact isQuiet_of_first (by decide) (by decide) (by decide)
  · exact isQuiet_nil
  · exact isQuiet_of_first (by decide) (by decide) (by decide)
  · exact @isQuiet_of_stop 'e' '{' "xtern \"C\" ".toList [] (by decide) (by decide) (by decide)
      (List.all_eq_true.mp (by decide)) (by decide) (by decide) (by decide)
  · exact isQuiet_of_first (by decide) (by decide) (by decide)
  · exact isQuiet_nil

theorem headerBottom_quiet : ∀ l ∈ headerBottom, IsQuiet l.toList := by
  intro l hl
  simp only [headerBottom, List.mem_cons, List.not_mem_nil, or_false] at hl
  rcases hl with rfl | rfl | rfl
  all_goals exact isQuiet_of_first (by decide) (by decide) (by decide)

/-- Includes whose paths have no newlines. -/
theorem sourceTop_quiet {header : String} (humbrella : '\n' ∉ settings.umbrellaHeader.toList)
    (hheader : '\n' ∉ header.toList) : ∀ l ∈ sourceTop settings header, IsQuiet l.toList := by
  have hslashes : '\n' ∉ Text.replaceChar '\\' '/' header.toList := by
    intro hx
    obtain ⟨y, hy, hyn⟩ := List.mem_map.mp hx
    split_ifs at hyn with hslash
    · exact absurd hyn (by decide)
    · exact hheader (hyn ▸ hy)
  have hinclude : ∀ s : List Char, '\n' ∉ s → IsQuiet ("#include ".toList ++ s) := by
    intro s hs
    refine isQuiet_of_first (by decide) (by decide) ?_
    change '\n' ∉ "#include ".toList ++ s
    rw [List.mem_append]
    exact not_or.mpr ⟨by decide, hs⟩
  intro l hl
  simp only [sourceTop, List.mem_cons, List.not_mem_nil, or_false] at hl
  rcases hl with rfl | rfl
  · have hline : ("#include <" ++ settings.umbrellaHeader ++ ">").toList =
        "#include ".toList ++ ('<' :: settings.umbrellaHeader.toList ++ ['>']) := by
      simp only [String.toList_append]
      rfl
    rw [hline]
    exact hinclude _ (by simp [humbrella])
  · have hline : ("#include \"./" ++ String.ofList (Text.replaceChar '\\' '/' header.toList) ++
        "\"").toList = "#include ".toList ++
          ('"' :: '.' :: '/' :: Text.replaceChar '\\' '/' header.toList ++ ['"']) := by
      simp only [String.toList_append, String.toList_ofList]
      rfl
    rw [hline]
    exact hinclude _ (by simp [hslashes])

/-! ### What is read -/

/-- What the wrapper of a type declares. -/
def declared (settings : WrapperSettings) (t : TypeDecl) : List Prototype :=
  let lower := String.ofList (t.name.toList.map Char.toLower)
  let stem := settings.symbolPrefix ++ lower
  [⟨stem ++ "_create", stem ++ "_t*", "", .file⟩,
    ⟨stem ++ "_destroy", stem ++ "_t*", stem ++ "_t* " ++ lower, .file⟩]

theorem ofList_stem_append (t : TypeDecl) (ending : String) :
    String.ofList (stem settings t ++ ending.toList) =
      settings.symbolPrefix ++ String.ofList (t.name.toList.map Char.toLower) ++ ending := by
  rw [stem, String.ofList_append, String.ofList_append, String.ofList_toList, String.ofList_toList]

/-- Both functions return a pointer to the handle. -/
theorem Symbols.returnType_eq (n : Symbols settings t) :
    String.ofList (n.handle.text ++ Text.trim pointerMarks.text) =
      settings.symbolPrefix ++ String.ofList (t.name.toList.map Char.toLower) ++ "_t*" := by
  have hmarks : Text.trim pointerMarks.text = ['*'] := by decide
  have hpointer : "_t*".toList = "_t".toList ++ ['*'] := rfl
  rw [hmarks, n.handle_eq, ← ofList_stem_append, hpointer, List.append_assoc]

/-- The destroying function takes a pointer to the handle. -/
theorem Symbols.params_eq (n : Symbols settings t) :
    String.ofList (Text.trim n.destroyLine.params) = settings.symbolPrefix ++
      String.ofList (t.name.toList.map Char.toLower) ++ "_t* " ++
        String.ofList (t.name.toList.map Char.toLower) := by
  have hhandle : n.handle.text ≠ [] := List.cons_ne_nil _ _
  have hparameter : n.parameter ≠ [] := by
    have hname := n.typeName.map_toLower
    intro hnil
    rw [← Symbols.parameter.eq_def n, hnil] at hname
    exact hname
  have hparams : n.destroyLine.params = n.handle.text ++ ['*', ' '] ++ n.parameter := by
    simp [Symbols.destroyLine]
  have hpointer : "_t* ".toList = "_t".toList ++ ['*', ' '] := rfl
  rw [hparams, Text.trim_of_ends ['*', ' '] hhandle hparameter
      (fun x hx => isBlank_of_isNameChar (n.handle.isNameChar_of_mem hx))
      (fun x hx => isBlank_of_isNameChar (n.isNameChar_of_mem_parameter hx)),
    n.handle_eq, ← ofList_stem_append, hpointer, Symbols.parameter, List.append_assoc (stem _ _),
    String.ofList_append]

/-- The routines of the two lines are those that are declared. -/
theorem Symbols.prototype_routine (n : Symbols settings t) (pre pre' : List Char) :
    [(n.createLine.routine .file pre).prototype, (n.destroyLine.routine .file pre').prototype] =
      declared settings t := by
  have hcreate : String.ofList n.create.text = settings.symbolPrefix ++
      String.ofList (t.name.toList.map Char.toLower) ++ "_create" := by
    rw [n.create_eq, ofList_stem_append]
  have hdestroy : String.ofList n.destroy.text = settings.symbolPrefix ++
      String.ofList (t.name.toList.map Char.toLower) ++ "_destroy" := by
    rw [n.destroy_eq, ofList_stem_append]
  have hnone : String.ofList (Text.trim n.createLine.params) = "" := rfl
  have hcreateLine : (n.createLine.routine .file pre).prototype = ⟨String.ofList n.create.text,
      String.ofList (n.handle.text ++ Text.trim pointerMarks.text),
      String.ofList (Text.trim n.createLine.params), .file⟩ := rfl
  have hdestroyLine : (n.destroyLine.routine .file pre').prototype = ⟨String.ofList n.destroy.text,
      String.ofList (n.handle.text ++ Text.trim pointerMarks.text),
      String.ofList (Text.trim n.destroyLine.params), .file⟩ := rfl
  rw [hcreateLine, hdestroyLine, hcreate, hdestroy, hnone, n.returnType_eq, n.params_eq]
  rfl

theorem Symbols.mention_quiet (n : Symbols settings t) :
    ∀ l ∈ mentionLines settings t, IsQuiet l.toList := by
  intro l hl
  simp only [mentionLines, List.mem_cons, List.not_mem_nil, or_false] at hl
  rcases hl with rfl | rfl
  · have hline : ("struct " ++ (Names.ofType settings t).handle ++ ";").toList =
        's' :: ("truct ".toList ++ n.handle.text) ++ ';' :: [] := by
      rw [String.toList_append, String.toList_append, toList_handle n.typeName, n.handle_eq]
      rfl
    have hchars : ∀ z ∈ 's' :: ("truct ".toList ++ n.handle.text),
        isHeadChar z = true ∧ z ≠ '\n' := by
      intro z hz
      rw [← List.cons_append, List.mem_append] at hz
      rcases hz with hz | hz
      · have hall : ∀ z ∈ 's' :: "truct ".toList, isHeadChar z = true ∧ z ≠ '\n' :=
          List.all_iff_forall_prop.mp (by decide)
        exact hall z hz
      · have hname := n.handle.isNameChar_of_mem hz
        exact ⟨isHeadChar_of_isNameChar hname, ne_of_isNameChar hname (by decide)⟩
    have hnewline : '\n' ∉ 's' :: ("truct ".toList ++ n.handle.text) ++ ';' :: [] := by
      intro hmem
      rcases List.mem_append.mp hmem with hmem | hmem
      · exact (hchars _ hmem).2 rfl
      · exact absurd hmem (by decide)
    rw [hline]
    exact isQuiet_of_stop (by decide) (by decide) (by decide) (fun z hz => (hchars z hz).1)
      (by decide) (by decide) hnewline
  · exact isQuiet_nil

/-- The functions of a type are read from its lines in the header. -/
theorem readsRoutines_headerLines (n : Symbols settings t)
    (hindex : ∀ offset, index.ownerOf? offset = none) (hpre : AtLineStart pre)
    (h : ReadsRoutines unit index (Cursor.between (pre ++ linesText (headerLines settings t)) post)
      xs) :
    ∃ rs, rs.map Routine.prototype = declared settings t ∧
      ReadsRoutines unit index (Cursor.between pre (linesText (headerLines settings t) ++ post))
        (rs ++ xs) := by
  rw [n.linesText_headerLines] at h ⊢
  simp only [← List.append_assoc] at h
  simp only [List.append_assoc]
  have hlineStart : ∀ (s : RoutineLine) (before : List Char),
      AtLineStart (before ++ s.prototype) := by
    intro s before
    have hend : before ++ s.prototype = before ++ (s.indent.text ++ s.text ++ [';']) ++ ['\n'] := by
      simp [RoutineLine.prototype]
    rw [hend]
    exact atLineStart_append_newline _
  have hmention := atLineStart_linesText hpre (mentionLines settings t)
  -- backwards: the empty line, the two prototypes, the mention of the handle
  have hempty := readsRoutines_skip_lines emptyLine_quiet h
  have hdestroy := readsRoutines_line n.destroyLine (hlineStart _ _) hempty
  have hcreate := readsRoutines_line n.createLine hmention hdestroy
  have hread := readsRoutines_skip_lines n.mention_quiet hcreate
  rw [hindex, hindex] at hread
  exact ⟨[_, _], n.prototype_routine _ _, hread⟩

/-- The functions of all types are read from their lines in the header, in the order of the
types. -/
theorem readsRoutines_headers {types : List TypeDecl}
    (hsymbols : ∀ t ∈ types, Nonempty (Symbols settings t))
    (hindex : ∀ offset, index.ownerOf? offset = none) (hpre : AtLineStart pre)
    (h : ReadsRoutines unit index
      (Cursor.between (pre ++ types.flatMap fun t => linesText (headerLines settings t)) post) xs) :
    ∃ rs, rs.map Routine.prototype = types.flatMap (declared settings) ∧
      ReadsRoutines unit index
        (Cursor.between pre ((types.flatMap fun t => linesText (headerLines settings t)) ++ post))
        (rs ++ xs) := by
  induction types generalizing pre with
  | nil =>
    rw [List.flatMap_nil, List.append_nil] at h
    exact ⟨[], rfl, h⟩
  | cons t ts ih =>
    obtain ⟨ht, hts⟩ := List.forall_mem_cons.mp hsymbols
    obtain ⟨n⟩ := ht
    rw [List.flatMap_cons, ← List.append_assoc] at h
    obtain ⟨rs, hrs, hreads⟩ := ih hts (atLineStart_linesText hpre _) h
    obtain ⟨rs', hrs', hreads'⟩ := readsRoutines_headerLines n hindex hpre hreads
    refine ⟨rs' ++ rs, ?_, ?_⟩
    · rw [List.map_append, hrs', hrs, List.flatMap_cons]
    · rw [List.flatMap_cons, List.append_assoc, List.append_assoc]
      exact hreads'

/-- No brace stands in the body of the creating function. -/
theorem Symbols.balanced_createBody (n : Symbols settings t) : Balanced n.createBody := by
  have hreturn : ∀ x ∈ "\n    return new ".toList, x ≠ '{' ∧ x ≠ '}' :=
    List.all_iff_forall_prop.mp (by decide)
  have hend : ∀ x ∈ "();\n".toList, x ≠ '{' ∧ x ≠ '}' :=
    List.all_iff_forall_prop.mp (by decide)
  refine balanced_of_forall fun x hx => ?_
  change x ∈ "\n    return new ".toList ++ t.name.toList ++ "();\n".toList at hx
  rw [List.mem_append, List.mem_append] at hx
  rcases hx with (hx | hx) | hx
  · exact hreturn x hx
  · have hname := n.typeName.isNameChar_of_mem hx
    exact ⟨ne_of_isNameChar hname (by decide), ne_of_isNameChar hname (by decide)⟩
  · exact hend x hx

/-- The definition in the source is passed over. -/
theorem readsRoutines_sourceLines (n : Symbols settings t) (hpre : AtLineStart pre)
    (h : ReadsRoutines unit index (Cursor.between (pre ++ linesText (sourceLines settings t)) post)
      xs) :
    ReadsRoutines unit index (Cursor.between pre (linesText (sourceLines settings t) ++ post))
      xs := by
  have htext : linesText (sourceLines settings t) =
      linesText [""] ++ n.createLine.definition Symbols.blank n.createBody :=
    n.linesText_sourceLines
  rw [htext] at h ⊢
  rw [← List.append_assoc] at h
  rw [List.append_assoc]
  refine readsRoutines_skip_lines emptyLine_quiet ?_
  exact readsRoutines_skip_body n.createLine Symbols.blank n.balanced_createBody
    (atLineStart_linesText hpre _) h

theorem readsRoutines_sources {types : List TypeDecl}
    (hsymbols : ∀ t ∈ types, Nonempty (Symbols settings t)) (hpre : AtLineStart pre)
    (h : ReadsRoutines unit index
      (Cursor.between (pre ++ types.flatMap fun t => linesText (sourceLines settings t)) post) xs) :
    ReadsRoutines unit index
      (Cursor.between pre ((types.flatMap fun t => linesText (sourceLines settings t)) ++ post))
      xs := by
  induction types generalizing pre with
  | nil =>
    rw [List.flatMap_nil, List.append_nil] at h
    exact h
  | cons t ts ih =>
    obtain ⟨ht, hts⟩ := List.forall_mem_cons.mp hsymbols
    obtain ⟨n⟩ := ht
    rw [List.flatMap_cons, ← List.append_assoc] at h
    rw [List.flatMap_cons, List.append_assoc]
    exact readsRoutines_sourceLines n hpre (ih hts (atLineStart_linesText hpre _) h)

end Routines

/-! ### The wrapper as a whole -/

/-- What a path is made of that no part of a pattern can begin in. -/
def isPathChar (x : Char) : Bool :=
  isAlphanumeric x || x = '_' || x = '.' || x = '/' || x = '-'

theorem isBlank_of_isPathChar {x : Char} (h : isPathChar x = true) : isBlank x = false := by
  by_contra hblank
  rw [Bool.not_eq_false] at hblank
  have halpha := isAlphanumeric_of_isBlank hblank
  simp only [isPathChar, halpha, Bool.false_or, Bool.or_eq_true, decide_eq_true_eq] at h
  rcases h with ((rfl | rfl) | rfl) | rfl
  all_goals exact absurd hblank (by decide)

/-- A path has no newlines. -/
theorem newline_notMem_of_isPathChar {s : List Char} (h : ∀ x ∈ s, isPathChar x = true) :
    '\n' ∉ s := fun hmem => absurd (isBlank_of_isPathChar (h _ hmem)) (by decide)

theorem ownerOf?_ofTypes_nil (offset : Nat) : (ScopeIndex.ofTypes []).ownerOf? offset = none :=
  rfl

/-- What is parsed from a text without types. -/
theorem parse_of_no_types {unit : SourceUnit} {rs : List Routine}
    (htypes : extractTypes unit = .ok [])
    (hroutines : extractRoutines unit (ScopeIndex.ofTypes []) = .ok rs) :
    unit.parse .typesAndRoutines = .ok ⟨[], rs⟩ := by
  rw [SourceUnit.parse, htypes]
  simp only [hroutines]
  rfl

section Texts

variable {settings : WrapperSettings} {types : List TypeDecl}

/-- The header of a wrapper declares the functions of its types. -/
theorem parse_emitHeader (hsymbols : ∀ t ∈ types, Nonempty (Symbols settings t)) (path : String)
    (fileId : Nat) :
    ∃ rs, rs.map Routine.prototype = types.flatMap (declared settings) ∧
      (SourceUnit.mk path (emitHeader settings types) fileId).parse .typesAndRoutines =
        .ok ⟨[], rs⟩ := by
  let unit : SourceUnit := ⟨path, emitHeader settings types, fileId⟩
  have htext : unit.text.toList = linesText headerTop ++
      ((types.flatMap fun t => linesText (headerLines settings t)) ++
        (linesText headerBottom ++ [])) := by
    rw [List.append_nil, ← List.append_assoc]
    exact toList_emitHeader settings types
  have htop : AtLineStart (linesText headerTop) := atLineStart_linesText atLineStart_nil headerTop
  have htypes : extractTypes unit = .ok [] := by
    refine extractTypes_of_reads ?_
    rw [htext]
    refine readsTypes_skip_headerTop ?_
    refine readsTypes_skip_flatMap (fun t ht pre post hpre h => ?_) htop ?_
    · obtain ⟨n⟩ := hsymbols t ht
      exact readsTypes_headerLines n hpre h
    · exact readsTypes_skip_headerBottom (Scanner.reads_end _)
  obtain ⟨rs, hrs, hreads⟩ := @readsRoutines_headers unit _ _ _ _ _ _ hsymbols
    ownerOf?_ofTypes_nil htop (readsRoutines_skip_lines headerBottom_quiet (Scanner.reads_end _))
  have hroutines : extractRoutines unit (ScopeIndex.ofTypes []) = .ok rs := by
    refine extractRoutines_of_reads ?_
    rw [htext]
    rw [List.append_nil rs] at hreads
    exact readsRoutines_skip_lines headerTop_quiet hreads
  exact ⟨rs, hrs, parse_of_no_types htypes hroutines⟩

/-- The source of a wrapper declares nothing. -/
theorem parse_emitSource (hsymbols : ∀ t ∈ types, Nonempty (Symbols settings t)) {header : String}
    (humbrella : ∀ x ∈ settings.umbrellaHeader.toList, isPathChar x = true)
    (hheader : ∀ x ∈ header.toList, isPathChar x = true) (path : String) (fileId : Nat) :
    (SourceUnit.mk path (emitSource settings types header) fileId).parse .typesAndRoutines =
      .ok ⟨[], []⟩ := by
  let unit : SourceUnit := ⟨path, emitSource settings types header, fileId⟩
  have htext : unit.text.toList = linesText (sourceTop settings header) ++
      ((types.flatMap fun t => linesText (sourceLines settings t)) ++ []) := by
    rw [List.append_nil]
    exact toList_emitSource settings types header
  have htop : AtLineStart (linesText (sourceTop settings header)) :=
    atLineStart_linesText atLineStart_nil (sourceTop settings header)
  have htypes : extractTypes unit = .ok [] := by
    refine extractTypes_of_reads ?_
    rw [htext]
    refine readsTypes_skip_sourceTop (fun x hx => isBlank_of_isPathChar (humbrella x hx))
      (fun x hx => isBlank_of_isPathChar (hheader x hx)) ?_
    refine readsTypes_skip_flatMap (fun t ht pre post hpre h => ?_) htop (Scanner.reads_end _)
    obtain ⟨n⟩ := hsymbols t ht
    exact readsTypes_sourceLines n h
  have hroutines : extractRoutines unit (ScopeIndex.ofTypes []) = .ok [] := by
    refine extractRoutines_of_reads ?_
    rw [htext]
    refine readsRoutines_skip_lines (sourceTop_quiet (newline_notMem_of_isPathChar humbrella)
      (newline_notMem_of_isPathChar hheader)) ?_
    exact readsRoutines_sources hsymbols htop (Scanner.reads_end _)
  exact parse_of_no_types htypes hroutines

end Texts

/-- **A wrapper is read back.**  If the types are called by identifiers of ASCII and the symbol
prefix is one, or empty, then the header of the wrapper declares for each type the function that
creates and the one that destroys, in the order of the types, and no type; the source declares
nothing, if the two paths in it are made of letters, digits and the marks of a path. -/
theorem emitted_read_back (settings : WrapperSettings) (types : List TypeDecl)
    (hsymbols : settings.symbolPrefix = "" ∨ IsAsciiName settings.symbolPrefix.toList)
    (hnames : ∀ t ∈ types, IsAsciiName t.name.toList) (path : String) (fileId : Nat) :
    (∃ rs, rs.map Routine.prototype = types.flatMap (declared settings) ∧
      (SourceUnit.mk path (emitHeader settings types) fileId).parse .typesAndRoutines =
        .ok ⟨[], rs⟩) ∧
    ∀ header : String, (∀ x ∈ settings.umbrellaHeader.toList, isPathChar x = true) →
      (∀ x ∈ header.toList, isPathChar x = true) →
      (SourceUnit.mk path (emitSource settings types header) fileId).parse .typesAndRoutines =
        .ok ⟨[], []⟩ := by
  have hall : ∀ t ∈ types, Nonempty (Symbols settings t) :=
    fun t ht => exists_symbols hsymbols (hnames t ht)
  refine ⟨parse_emitHeader hall path fileId, fun header humbrella hheader => ?_⟩
  exact parse_emitSource hall humbrella hheader path fileId

/-- Types whose names are keywords in lower case are read back as well. -/
theorem emitted_read_back_keywords :
    let named (name : String) : TypeDecl :=
      ⟨.structWord, name, [], "gui/class.h", 0, 1, ⟨0, 0⟩, ⟨0, 0⟩, ""⟩
    let settings : WrapperSettings := { symbolPrefix := "" }
    let types := [named "CLASS", named "Struct"]
    (∃ rs, rs.map Routine.prototype =
        [⟨"class_create", "class_t*", "", .file⟩,
          ⟨"class_destroy", "class_t*", "class_t* class", .file⟩,
          ⟨"struct_create", "struct_t*", "", .file⟩,
          ⟨"struct_destroy", "struct_t*", "struct_t* struct", .file⟩] ∧
      (SourceUnit.mk "out/class.h" (emitHeader settings types) 0).parse .typesAndRoutines =
        .ok ⟨[], rs⟩) ∧
    (SourceUnit.mk "out/class.cpp" (emitSource settings types "gui/class.h") 1).parse
      .typesAndRoutines = .ok ⟨[], []⟩ := by
  intro named settings types
  have hnames : ∀ t ∈ types, IsAsciiName t.name.toList := by decide
  obtain ⟨rs, hrs, hheader⟩ :=
    (emitted_read_back settings types (Or.inl rfl) hnames "out/class.h" 0).1
  have hsource := (emitted_read_back settings types (Or.inl rfl) hnames "out/class.cpp" 1).2
    "gui/class.h" (List.all_eq_true.mp (by decide)) (List.all_eq_true.mp (by decide))
  refine ⟨⟨rs, hrs.trans ?_, hheader⟩, hsource⟩
  decide

end Wrapper
end HeaderSurvey
