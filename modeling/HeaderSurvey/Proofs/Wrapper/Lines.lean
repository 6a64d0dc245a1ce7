import HeaderSurvey.Proofs.Declaration.RoutineReads
import HeaderSurvey.Proofs.Wrapper.Names

/-!
# The lines of a wrapper

The two texts of a wrapper are lines with a newline behind each: fixed ones, and between or behind
them those of one type after the other (`toList_emitHeader`, `toList_emitSource`).  The lines of a
type are put together from its names in two ways.  For the walk over the routines they are a
forward declaration, two prototypes and a definition; for the walk over the types they are words,
with what stands between two of them.
-/

namespace HeaderSurvey.Wrapper

/-! ### The emitted texts -/

/-- Lines that an empty one ends are lines with a newline behind each. -/
theorem toList_intercalate_newline (lines : List String) :
    ("\n".intercalate (lines ++ [""])).toList = lines.flatMap fun l => l.toList ++ ['\n'] := by
  have hnewline : "\n".toList = ['\n'] := rfl
  rw [String.toList_intercalate, hnewline]
  induction lines with
  | nil => rfl
  | cons l ls ih =>
    cases ls with
    | nil => simp
    | cons l' ls =>
      rw [List.cons_append, List.cons_append, List.map_cons, List.map_cons,
        List.intercalate_cons_cons, ← List.map_cons, ← List.cons_append, ih, List.flatMap_cons]
      simp

/-- The text of lines. -/
def linesText (lines : List String) : List Char :=
  lines.flatMap fun l => l.toList ++ ['\n']

/-- What the header begins with. -/
def headerTop : List String :=
  ["#pragma once", "", "#ifdef __cplusplus", "extern \"C\" \x7b", "#endif", ""]

/-- What the header ends with. -/
def headerBottom : List String :=
  ["#ifdef __cplusplus", "\x7d", "#endif"]

/-- What the source begins with. -/
def sourceTop (settings : WrapperSettings) (header : String) : List String :=
  ["#include <" ++ settings.umbrellaHeader ++ ">",
    "#include \"./" ++ String.ofList (Text.replaceChar '\\' '/' header.toList) ++ "\""]

theorem toList_emitHeader (settings : WrapperSettings) (types : List TypeDecl) :
    (emitHeader settings types).toList = linesText headerTop ++
      (types.flatMap fun t => linesText (headerLines settings t)) ++ linesText headerBottom := by
  have hlines : ["#ifdef __cplusplus", "\x7d", "#endif", ""] = headerBottom ++ [""] := rfl
  rw [emitHeader, hlines, ← List.append_assoc, toList_intercalate_newline, List.flatMap_append,
    List.flatMap_append, List.flatMap_assoc]
  rfl

theorem toList_emitSource (settings : WrapperSettings) (types : List TypeDecl) (header : String) :
    (emitSource settings types header).toList = linesText (sourceTop settings header) ++
      types.flatMap fun t => linesText (sourceLines settings t) := by
  rw [emitSource, toList_intercalate_newline, List.flatMap_append, List.flatMap_assoc]
  rfl

theorem atLineStart_linesText {pre : List Char} (hpre : AtLineStart pre) (lines : List String) :
    AtLineStart (pre ++ linesText lines) := by
  rcases List.eq_nil_or_concat lines with rfl | ⟨ls, l, rfl⟩
  · simpa [linesText] using hpre
  · have hend : pre ++ linesText (ls.concat l) = pre ++ linesText ls ++ l.toList ++ ['\n'] := by
      simp [linesText]
    rw [hend]
    exact atLineStart_append_newline _

/-- What mentions the handle of a type in the header. -/
def mentionLines (settings : WrapperSettings) (t : TypeDecl) : List String :=
  ["struct " ++ (Names.ofType settings t).handle ++ ";", ""]

/-- The names in the wrapper of a type, as the scanner takes them. -/
structure Symbols (settings : WrapperSettings) (t : TypeDecl) where
  handle : PlainName
  create : PlainName
  destroy : PlainName
  handle_eq : handle.text = stem settings t ++ "_t".toList
  create_eq : create.text = stem settings t ++ "_create".toList
  destroy_eq : destroy.text = stem settings t ++ "_destroy".toList
  /-- The name of the type. -/
  typeName : IsAsciiName t.name.toList

/-- Every type that is called by an identifier has such names. -/
theorem exists_symbols {settings : WrapperSettings} {t : TypeDecl}
    (hsymbols : settings.symbolPrefix = "" ∨ IsAsciiName settings.symbolPrefix.toList)
    (ht : IsAsciiName t.name.toList) : Nonempty (Symbols settings t) := by
  have hstem := isAsciiName_stem hsymbols ht
  obtain ⟨handle, hhandle⟩ :=
    @exists_symbol _ "_t".toList hstem (List.all_eq_true.mp (by decide)) (by decide +kernel)
  obtain ⟨create, hcreate⟩ :=
    @exists_symbol _ "_create".toList hstem (List.all_eq_true.mp (by decide)) (by decide +kernel)
  obtain ⟨destroy, hdestroy⟩ :=
    @exists_symbol _ "_destroy".toList hstem (List.all_eq_true.mp (by decide)) (by decide +kernel)
  exact ⟨⟨handle, create, destroy, hhandle, hcreate, hdestroy, ht⟩⟩

/-- The asterisk and the blank behind the handle. -/
def pointerMarks : Marks where
  first := '*'
  others := [' ']
  first_ok := by decide
  others_ok := List.all_eq_true.mp (by decide)

namespace Symbols

variable {settings : WrapperSettings} {t : TypeDecl} (n : Symbols settings t)

/-- The parameter of the destroying function. -/
def parameter (_ : Symbols settings t) : List Char :=
  t.name.toList.map Char.toLower

theorem isNameChar_of_mem_parameter {x : Char} (h : x ∈ n.parameter) : isNameChar x = true :=
  n.typeName.map_toLower.isNameChar_of_mem h

/-- The line of the creating function. -/
def createLine : RoutineLine where
  indent := Blanks.none
  returnType := n.handle
  marks := pointerMarks
  name := n.create
  params := []
  closed := by simp

/-- The line of the destroying function. -/
def destroyLine : RoutineLine where
  indent := Blanks.none
  returnType := n.handle
  marks := pointerMarks
  name := n.destroy
  params := n.handle.text ++ '*' :: ' ' :: n.parameter
  closed := by
    intro x hx
    have hchar : isNameChar x = true ∨ x = '*' ∨ x = ' ' := by
      simp only [List.mem_append, List.mem_cons] at hx
      rcases hx with hx | rfl | rfl | hx
      · exact Or.inl (n.handle.isNameChar_of_mem hx)
      · exact Or.inr (Or.inl rfl)
      · exact Or.inr (Or.inr rfl)
      · exact Or.inl (n.isNameChar_of_mem_parameter hx)
    rcases hchar with h | rfl | rfl
    · exact ⟨ne_of_isNameChar h (by decide), ne_of_isNameChar h (by decide),
        ne_of_isNameChar h (by decide)⟩
    · decide
    · decide

/-- The mention of the handle as a structure. -/
def mention : TypeHead where
  indent := Blanks.none
  keyword := .structWord
  name := n.handle
  bases := []
  closeIndent := Blanks.none

/-- What stands in the body of the creating function. -/
def createBody (_ : Symbols settings t) : List Char :=
  "\n    return new ".toList ++ t.name.toList ++ "();\n".toList

/-- One blank. -/
def blank : Blanks where
  text := [' ']
  all_blank := List.all_eq_true.mp (by decide)

theorem linesText_mentionLines :
    linesText (mentionLines settings t) = "struct ".toList ++ n.handle.text ++ ";\n\n".toList := by
  have hempty : "".toList = [] := rfl
  have hmention : ";\n\n".toList = ";".toList ++ ['\n', '\n'] := rfl
  simp only [linesText, mentionLines, List.flatMap_cons, List.flatMap_nil, String.toList_append,
    toList_handle n.typeName, n.handle_eq, hempty, hmention, List.append_assoc, List.cons_append,
    List.nil_append]

theorem linesText_headerLines :
    linesText (headerLines settings t) = linesText (mentionLines settings t) ++
      (n.createLine.prototype ++ (n.destroyLine.prototype ++ linesText [""])) := by
  have hempty : "".toList = [] := rfl
  have hpointer : "* ".toList = ['*', ' '] := rfl
  have hcreate : "_create();".toList = "_create".toList ++ ['(', ')', ';'] := rfl
  have hdestroy : "_destroy(".toList = "_destroy".toList ++ ['('] := rfl
  have hend : ");".toList = [')', ';'] := rfl
  simp only [linesText, headerLines, mentionLines, List.flatMap_cons, List.flatMap_nil,
    String.toList_append, toList_handle n.typeName, toList_functionStem n.typeName,
    toList_parameter n.typeName, RoutineLine.prototype, RoutineLine.text, createLine, destroyLine,
    parameter, Blanks.none, Marks.text, pointerMarks, n.handle_eq, n.create_eq, n.destroy_eq,
    hempty, hpointer, hcreate, hdestroy, hend, List.append_assoc, List.cons_append,
    List.nil_append, List.append_nil]

theorem linesText_sourceLines :
    linesText (sourceLines settings t) = '\n' :: n.createLine.definition blank n.createBody := by
  have hempty : "".toList = [] := rfl
  have hpointer : "* ".toList = ['*', ' '] := rfl
  have hcreate : "_create() \x7b".toList = "_create".toList ++ ['(', ')', ' ', '\x7b'] := rfl
  have hbody : n.createBody = '\n' :: ("    return new ".toList ++ (t.name.toList ++
      ("();".toList ++ ['\n']))) := by
    have hreturn : "\n    return new ".toList = '\n' :: "    return new ".toList := rfl
    have hend : "();\n".toList = "();".toList ++ ['\n'] := rfl
    change "\n    return new ".toList ++ t.name.toList ++ "();\n".toList = _
    rw [hreturn, hend, List.append_assoc, List.cons_append]
  have hclose : "\x7d".toList = ['\x7d'] := rfl
  simp only [linesText, sourceLines, List.flatMap_cons, List.flatMap_nil, String.toList_append,
    toList_handle n.typeName, toList_functionStem n.typeName, RoutineLine.definition,
    RoutineLine.text, createLine, hbody, blank, Blanks.none, Marks.text, pointerMarks,
    n.handle_eq, n.create_eq, hempty, hpointer, hcreate, hclose, List.append_assoc,
    List.cons_append, List.nil_append, List.append_nil]

/-- The text of the header for a type, cut where a type might begin. -/
theorem linesText_headerLines_words :
    linesText (headerLines settings t) =
      n.mention.keyword.text.toList ++ ([' '] ++ (n.mention.name.text ++ ([';'] ++ (['\n', '\n'] ++
        (n.handle.text ++ (['*', ' '] ++ (n.create.text ++ (['(', ')', ';', '\n'] ++
          (n.handle.text ++ (['*', ' '] ++ (n.destroy.text ++ (['('] ++
            (n.handle.text ++ (['*', ' '] ++
              (n.parameter ++ [')', ';', '\n', '\n']))))))))))))))) := by
  have hstruct : "struct ".toList = TypeKeyword.structWord.text.toList ++ [' '] := rfl
  have hend : ";\n\n".toList = [';', '\n', '\n'] := rfl
  have hempty : linesText [""] = ['\n'] := rfl
  simp only [n.linesText_headerLines, n.linesText_mentionLines, hempty, RoutineLine.prototype,
    RoutineLine.text, createLine, destroyLine, mention, Blanks.none, Marks.text, pointerMarks,
    hstruct, hend, List.append_assoc, List.cons_append, List.nil_append]

/-- The text of the source for a type, cut where a type might begin. -/
theorem linesText_sourceLines_words :
    linesText (sourceLines settings t) =
      ['\n'] ++ (n.handle.text ++ (['*', ' '] ++ (n.create.text ++
        (['(', ')', ' ', '{', '\n', ' ', ' ', ' ', ' '] ++ ("return new".toList ++ ([' '] ++
          (t.name.toList ++ ['(', ')', ';', '\n', '}', '\n']))))))) := by
  have hbody : n.createBody = ['\n', ' ', ' ', ' ', ' '] ++ ("return new".toList ++ ([' '] ++
      (t.name.toList ++ ['(', ')', ';', '\n']))) := by
    have hreturn : "\n    return new ".toList =
        ['\n', ' ', ' ', ' ', ' '] ++ ("return new".toList ++ [' ']) := rfl
    have hend : "();\n".toList = ['(', ')', ';', '\n'] := rfl
    change "\n    return new ".toList ++ t.name.toList ++ "();\n".toList = _
    simp only [hreturn, hend, List.append_assoc]
  simp only [n.linesText_sourceLines, RoutineLine.definition, RoutineLine.text, createLine, hbody,
    blank, Blanks.none, Marks.text, pointerMarks, List.append_assoc, List.cons_append,
    List.nil_append]

end Symbols

end HeaderSurvey.Wrapper
