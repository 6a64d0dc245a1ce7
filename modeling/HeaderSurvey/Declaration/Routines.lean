import HeaderSurvey.Declaration.Types
import HeaderSurvey.Declaration.ScopeIndex

/-!
# Routine declarations of a text

A routine is a line in the form of a prototype: specifiers, a return type, a name, parameters in
parentheses and qualifiers, with a semicolon behind it. The same form with a brace behind it is a
definition, which is passed over together with its body. Statements, control words and conversion
operators have the form too and are left out.
-/

namespace HeaderSurvey

open Pattern

/-! ### Patterns -/

/-- A space or a tab. -/
def isSpaceOrTab (c : Char) : Bool :=
  c = ' ' || c = '\t'

/-- Any number of spaces and tabs. -/
def gap : Pattern :=
  many isSpaceOrTab

/-- What may stand in front of the return type: an access word with a colon, a template head and
specifiers. -/
def specifierPattern : Pattern :=
  optional ((lit "public" <|> lit "private" <|> lit "protected") ++ gap ++ lit ":" ++ gap) ++
    optional (lit "template" ++ gap ++ lit "<" ++ many (· ≠ '>') ++ lit ">" ++ many isBlank) ++
    star ((lit "inline" <|> lit "constexpr" <|> lit "static" <|> lit "virtual" <|>
      lit "explicit" <|> lit "extern" <|> lit "friend") ++ oneOrMore isSpaceOrTab)

/-- A return type: words of names, colons, angle brackets and commas; from the second word on with
pointer and reference marks. -/
def returnTypePattern : Pattern :=
  one isNameStart ++ many (fun c => isWordChar c || ":<>,".toList.contains c) ++
    lazyStar (oneOrMore isSpaceOrTab ++
      oneOrMore (fun c => isWordChar c || ":<>,*&".toList.contains c))

/-- What may stand behind the parameters. -/
def qualifierPattern : Pattern :=
  gap ++ optional (lit "const" ++ gap) ++ optional (lit "noexcept" ++ gap) ++
    optional (lit "override" ++ gap) ++ optional (lit "final" ++ gap) ++
    optional (lit "=" ++ gap ++ (lit "0" <|> lit "default" <|> lit "delete") ++ gap)

/-- The beginning of a prototype, from the start of its line to the opening parenthesis. -/
def routineFrontPattern : Pattern :=
  lineStart ++ gap ++ specifierPattern ++ capture 1 returnTypePattern ++
    capture 2 (oneOrMore fun c => isSpaceOrTab c || c = '*' || c = '&') ++
    capture 3 namePattern ++ gap ++ lit "("

/-- A line in the form of a prototype. It captures the return type, the marks before the name, the
name and the parameters. -/
def routinePattern : Pattern :=
  routineFrontPattern ++
    capture 4 (many (!";\x7b\x7d".toList.contains ·)) ++ lit ")" ++ qualifierPattern

/-! ### What is left out -/

/-- Words that begin a statement and no return type. -/
def statementWords : List String :=
  ["return", "else", "new", "delete", "throw", "case", "goto", "typedef", "using", "do",
    "co_return", "co_yield", "co_await"]

/-- Words that stand in front of parentheses and are no names. -/
def reservedNames : List String :=
  ["if", "while", "for", "switch", "return", "sizeof", "alignof", "catch", "decltype",
    "static_assert", "defined"]

/-- Whether a word of the return type is `operator`, qualified or not: what seems to be the name is
then the type that is converted to. -/
def isConversionOperator (returnType : List Char) : Bool :=
  (Text.words returnType).any fun word =>
    word = "operator".toList || (Text.dropStart? "::operator".toList.reverse word.reverse).isSome

/-- Whether the captured return type and name are those of a statement or of an operator. -/
def isStatement (returnType name : List Char) : Bool :=
  statementWords.contains (String.ofList ((Text.words returnType).headD [])) ||
    reservedNames.contains (String.ofList name) || isConversionOperator returnType

/-! ### The routines of a text -/

/-- The routine that a block declares, if it declares one. -/
def routineOfBlock? (index : ScopeIndex) (b : Block) : Option Routine := do
  if b.braces.isSome then none
  if (Text.trimStart b.keyword.stop.rest).head? ≠ some ';' then none
  let (start, stop) ← b.keyword.capture? 1
  let marks ← b.keyword.captured? 2
  let name ← b.keyword.captured? 3
  let params ← b.keyword.captured? 4
  let returnType := start.upTo stop
  if isStatement returnType name then none
  some {
    name := String.ofList name
    returnType := String.ofList (Text.trim returnType ++ Text.trim marks)
    params := String.ofList (Text.trim params)
    scope :=
      match index.ownerOf? start.offset with
      | some owner => .type owner
      | none => .file
    offset := start.offset
    line := start.line
  }

/-- The walk over the prototypes and definitions of a unit. -/
def routineScanner (unit : SourceUnit) : Scanner :=
  Scanner.ofText routinePattern .afterBlock unit.fileId unit.text.toList

/-- The routines of a unit in order. -/
def extractRoutines (unit : SourceUnit) (index : ScopeIndex) :
    Except UnclosedBlock (List Routine) :=
  match (routineScanner unit).blocks with
  | .ok blocks => .ok (blocks.filterMap (routineOfBlock? index))
  | .error e => .error e

end HeaderSurvey
