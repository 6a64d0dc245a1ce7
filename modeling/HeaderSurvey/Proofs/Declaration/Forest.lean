import HeaderSurvey.Declaration.Parse
import HeaderSurvey.Proofs.Block.Braces
import HeaderSurvey.Proofs.Text.Words

/-!
# Forests of declarations

A forest is what a header declares, as a tree: types with members, prototypes and definitions, to
any depth.  `Forest.render` lays it out as a text with one declaration to a line, and
`Forest.types` and `Forest.routines` list what is to be found in this text, with all offsets and
lines.  The lists are read off the tree and the text in front of each item; no pattern, scanner or
index occurs in them.

The parts of an item carry what is asked of them: a `PlainName` is an identifier of ASCII and none
of the words that mean something else, `Params` close no declaration, and the braces of a `Code`
match each other.
-/

namespace HeaderSurvey

/-! ### The parts of an item -/

/-- Words that are no names: those that begin a statement, stand in front of parentheses, introduce
a type or specify a base or a routine. -/
def barredWords : List String :=
  statementWords ++ reservedNames ++
    ["class", "struct", "operator", "public", "private", "protected", "inline", "constexpr",
      "static", "virtual", "explicit", "extern", "friend"]

/-- What an identifier goes on with, in ASCII. -/
def isNameChar (c : Char) : Bool :=
  isNameStart c || isAsciiDigit c

/-- An identifier of ASCII that is none of the barred words. -/
structure PlainName where
  first : Char
  others : List Char
  first_ok : isNameStart first = true
  others_ok : ∀ x ∈ others, isNameChar x = true
  not_barred : String.ofList (first :: others) ∉ barredWords

def PlainName.text (n : PlainName) : List Char :=
  n.first :: n.others

/-- Spaces and tabs, perhaps none. -/
structure Blanks where
  text : List Char
  all_blank : ∀ x ∈ text, isSpaceOrTab x = true

/-- Neither of the words that introduce a type stands in the text. -/
def TypeFree (s : List Char) : Prop :=
  ∀ kw : TypeKeyword, kw.text.toList ∉ Text.runs s

/-- A base: perhaps a word such as `public`, and a name that may be qualified. -/
structure Base where
  access : Option {w : List Char // w ∈ accessWords}
  /-- Whether the name begins with `::`. -/
  rooted : Bool
  qualifiers : List PlainName
  name : PlainName

/-- The name of the base with its qualifiers. -/
def Base.path (b : Base) : List Char :=
  (if b.rooted then [':', ':'] else []) ++
    (b.qualifiers.flatMap fun n => n.text ++ [':', ':']) ++ b.name.text

def Base.text (b : Base) : List Char :=
  match b.access with
  | some w => w.val ++ ' ' :: b.path
  | none => b.path

/-- The list of bases, with the blank behind it. -/
def baseListText (bases : List Base) : List Char :=
  Text.join [',', ' '] (bases.map Base.text) ++ [' ']

/-- The first line of a type, and the indentation of the last one. -/
structure TypeHead where
  indent : Blanks
  keyword : TypeKeyword
  name : PlainName
  bases : List Base
  closeIndent : Blanks

/-- From the keyword up to the opening brace: `class N ` or `class N : public B, C `. -/
def TypeHead.text (h : TypeHead) : List Char :=
  h.keyword.text.toList ++ ' ' :: (h.name.text ++
    if h.bases.isEmpty then [' '] else ' ' :: ':' :: ' ' :: baseListText h.bases)

/-- What stands between parentheses: no character that ends a declaration or begins a body, no blank
at the ends, and no type. -/
structure Params where
  text : List Char
  closed : ∀ x ∈ text, x ≠ ';' ∧ x ≠ '{' ∧ x ≠ '}'
  trimmed : Text.trim text = text
  typeFree : TypeFree text

/-- A return type, a name and parameters: `R N(P)`. -/
structure Signature where
  indent : Blanks
  returnType : PlainName
  name : PlainName
  params : Params

def Signature.text (s : Signature) : List Char :=
  s.returnType.text ++ ' ' :: (s.name.text ++ '(' :: (s.params.text ++ [')']))

/-- What stands between the braces of a definition: the braces match each other, and there is no
type. -/
structure Code where
  text : List Char
  balanced : Balanced text
  typeFree : TypeFree text

/-! ### Forests -/

/-- Declarations one after the other. -/
inductive Forest where
  | empty
  | type (head : TypeHead) (members next : Forest)
  | prototype (sig : Signature) (next : Forest)
  /-- A signature and, behind blanks, a body. -/
  | definition (sig : Signature) (blanks : Blanks) (body : Code) (next : Forest)

/-- The line that a type begins with. -/
def TypeHead.opening (h : TypeHead) : List Char :=
  h.indent.text ++ (h.text ++ ['{', '\n'])

/-- What stands between the braces of a type with the members. -/
def TypeHead.body (h : TypeHead) (members : List Char) : List Char :=
  '\n' :: (members ++ h.closeIndent.text)

/-- A type with its members: the line of its head, their lines, and a line with the closing brace
and a semicolon. -/
def TypeHead.item (h : TypeHead) (members : List Char) : List Char :=
  h.indent.text ++ (h.text ++ '{' :: (h.body members ++ ['}', ';', '\n']))

/-- A line with the signature and a semicolon. -/
def Signature.prototype (s : Signature) : List Char :=
  s.indent.text ++ (s.text ++ [';', '\n'])

/-- A line that begins with the signature and ends behind the body. -/
def Signature.definition (s : Signature) (blanks : Blanks) (body : Code) : List Char :=
  s.indent.text ++ (s.text ++ (blanks.text ++ '{' :: (body.text ++ ['}', '\n'])))

/-- The text of a forest. -/
def Forest.render : Forest → List Char
  | empty => []
  | type h members next => h.item members.render ++ next.render
  | prototype s next => s.prototype ++ next.render
  | definition s blanks body next => s.definition blanks body ++ next.render

/-! ### What a forest declares -/

/-- The declaration of a type that stands behind the text `pre`. -/
def TypeHead.decl (path : String) (fileId : Nat) (pre : List Char) (h : TypeHead)
    (members : List Char) : TypeDecl :=
  let start := pre ++ h.indent.text
  let opened := start ++ h.text ++ ['{']
  let closed := opened ++ h.body members
  { keyword := h.keyword
    name := String.ofList h.name.text
    bases := h.bases.map fun b => String.ofList b.path
    path := path
    fileId := fileId
    line := start.count '\n' + 1
    span := ⟨Text.byteLength start, Text.byteLength (closed ++ ['}'])⟩
    bodySpan := ⟨Text.byteLength opened, Text.byteLength closed⟩
    body := String.ofList (h.body members) }

/-- The routine of a prototype that stands behind the text `pre`. -/
def Signature.routine (scope : Scope) (pre : List Char) (s : Signature) : Routine where
  name := String.ofList s.name.text
  returnType := String.ofList s.returnType.text
  params := String.ofList s.params.text
  scope := scope
  offset := Text.byteLength (pre ++ s.indent.text)
  line := (pre ++ s.indent.text).count '\n' + 1

/-- The types of a forest behind the text `pre`, each in front of its members. -/
def Forest.types (path : String) (fileId : Nat) (pre : List Char) : Forest → List TypeDecl
  | empty => []
  | type h members next =>
    h.decl path fileId pre members.render ::
      (members.types path fileId (pre ++ h.opening) ++
        next.types path fileId (pre ++ h.item members.render))
  | prototype s next => next.types path fileId (pre ++ s.prototype)
  | definition s blanks body next => next.types path fileId (pre ++ s.definition blanks body)

/-- The routines of a forest behind the text `pre`: its prototypes, those among the members of a
type in the scope of this type. -/
def Forest.routines (scope : Scope) (pre : List Char) : Forest → List Routine
  | empty => []
  | type h members next =>
    members.routines (.type (String.ofList h.name.text)) (pre ++ h.opening) ++
      next.routines scope (pre ++ h.item members.render)
  | prototype s next => s.routine scope pre :: next.routines scope (pre ++ s.prototype)
  | definition s blanks body next => next.routines scope (pre ++ s.definition blanks body)

end HeaderSurvey
