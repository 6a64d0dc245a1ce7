import HeaderSurvey.Text.Cursor

/-!
# Declarations

What a C++ text declares, as far as this library looks: class and struct types with a body, and
function prototypes, which are called routines.
-/

namespace HeaderSurvey

/-- A file and its text. -/
structure SourceUnit where
  path : String
  text : String
  /-- The number by which errors name the file. -/
  fileId : Nat
  deriving Repr, DecidableEq

/-- The keyword that introduces a type. -/
inductive TypeKeyword where
  | classWord
  | structWord
  deriving Repr, DecidableEq

/-- The keyword as it is written. -/
def TypeKeyword.text : TypeKeyword → String
  | .classWord => "class"
  | .structWord => "struct"

/-- A class or struct with a body. -/
structure TypeDecl where
  keyword : TypeKeyword
  name : String
  /-- The names of the base types in order, without access words and blanks. -/
  bases : List String
  /-- The file that declares the type. -/
  path : String
  fileId : Nat
  /-- The line of the keyword. -/
  line : Nat
  /-- From the keyword to the closing brace, that brace included. -/
  span : Span
  /-- What stands between the braces. -/
  bodySpan : Span
  body : String
  deriving Repr, DecidableEq

/-- What follows the last `::` of a text written backwards, itself written backwards. -/
def afterLastColons : (backwards : List Char) → List Char
  | ':' :: ':' :: _ => []
  | c :: cs => c :: afterLastColons cs
  | [] => []

/-- The last name of a qualified name: the text before the first `<`, and of that what follows the
last `::`, without the blanks around it. -/
def unqualified (name : String) : String :=
  let plain := name.toList.takeWhile (· ≠ '<')
  String.ofList (Text.trim (afterLastColons plain.reverse).reverse)

namespace TypeDecl

/-- Whether the type names any base. -/
def hasBases (t : TypeDecl) : Bool :=
  !t.bases.isEmpty

/-- The last names of the bases. -/
def unqualifiedBases (t : TypeDecl) : List String :=
  t.bases.map unqualified

end TypeDecl

/-- Where a routine is declared. -/
inductive Scope where
  /-- Outside every type. -/
  | file
  /-- Directly inside the body of the type with this name. -/
  | type (owner : String)
  deriving Repr, DecidableEq

/-- A function prototype. -/
structure Routine where
  name : String
  /-- The return type with the pointer and reference marks in front of the name. -/
  returnType : String
  /-- The text between the parentheses. -/
  params : String
  scope : Scope
  /-- Where the return type begins. -/
  offset : Nat
  line : Nat
  deriving Repr, DecidableEq

/-- What one file declares. -/
structure Declarations where
  types : List TypeDecl
  routines : List Routine
  deriving Repr, DecidableEq

/-- Whether nothing is declared. -/
def Declarations.isEmpty (d : Declarations) : Bool :=
  d.types.isEmpty && d.routines.isEmpty

end HeaderSurvey
