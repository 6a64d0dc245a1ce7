import HeaderSurvey.Declaration.Basic
import HeaderSurvey.Settings.Basic
import HeaderSurvey.Text.Lowercase

/-!
# The text of a wrapper

A wrapper of a type is an opaque handle with a function that creates one and a function that
destroys one, all with C linkage. A header declares them for the types of one file; a source defines
the functions that create, and the ones that destroy are left to be written by hand.
-/

namespace HeaderSurvey.Wrapper

/-- The names in the wrapper of a type. -/
structure Names where
  /-- The type of the handle. -/
  handle : String
  /-- What the names of the functions begin with. -/
  functionStem : String
  /-- The parameter of the destroying function. -/
  parameter : String
  deriving Repr, DecidableEq

/-- The names in the wrapper of a type: its name in lower case, the functions and the handle behind
the symbol prefix. -/
def Names.ofType (settings : WrapperSettings) (t : TypeDecl) : Names :=
  let lower := String.ofList (Text.lowercase t.name.toList)
  let stem := settings.symbolPrefix ++ lower
  ⟨stem ++ "_t", stem, lower⟩

/-- The lines of a header for one type. -/
def headerLines (settings : WrapperSettings) (t : TypeDecl) : List String :=
  let n := Names.ofType settings t
  ["struct " ++ n.handle ++ ";",
    "",
    n.handle ++ "* " ++ n.functionStem ++ "_create();",
    n.handle ++ "* " ++ n.functionStem ++ "_destroy(" ++ n.handle ++ "* " ++ n.parameter ++ ");",
    ""]

/-- The header for the types of a file. -/
def emitHeader (settings : WrapperSettings) (types : List TypeDecl) : String :=
  "\n".intercalate <|
    ["#pragma once", "", "#ifdef __cplusplus", "extern \"C\" \x7b", "#endif", ""] ++
      types.flatMap (headerLines settings) ++
      ["#ifdef __cplusplus", "\x7d", "#endif", ""]

/-- The lines of a source for one type. -/
def sourceLines (settings : WrapperSettings) (t : TypeDecl) : List String :=
  let n := Names.ofType settings t
  ["",
    n.handle ++ "* " ++ n.functionStem ++ "_create() \x7b",
    "    return new " ++ t.name ++ "();",
    "\x7d"]

/-- The source for the types of a file whose header is at the given path. -/
def emitSource (settings : WrapperSettings) (types : List TypeDecl) (header : String) : String :=
  "\n".intercalate <|
    ["#include <" ++ settings.umbrellaHeader ++ ">",
      "#include \"./" ++ String.ofList (Text.replaceChar '\\' '/' header.toList) ++ "\""] ++
      types.flatMap (sourceLines settings) ++
      [""]

end HeaderSurvey.Wrapper
