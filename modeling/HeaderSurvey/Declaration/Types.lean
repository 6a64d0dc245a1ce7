import HeaderSurvey.Block
import HeaderSurvey.Declaration.Basic

/-!
# Type declarations of a text

A type declaration is a block whose keyword is `class` or `struct` with a name, and perhaps the
word `final` and a list of bases. A block without braces is a mere mention of the type, and one
behind the word `enum` is an enumeration; neither is kept.
-/

namespace HeaderSurvey

open Pattern

/-! ### Patterns -/

/-- A comment: to the end of the line, or to the closing mark. -/
def commentPattern : Pattern :=
  lit "//" ++ many (· ≠ '\n') <|> lit "/*" ++ lazyStar (one fun _ => true) ++ lit "*/"

/-- An identifier that begins in ASCII. -/
def namePattern : Pattern :=
  one isNameStart ++ many isWordChar

/-- A list of bases, up to a brace or a semicolon outside comments. It may begin with `::` but with
no other colon. -/
def baseListPattern : Pattern :=
  optional (lit "::") ++
    (one (!":\x7b\x7d;/".toList.contains ·) <|> commentPattern) ++
    star (one (!"\x7b\x7d;/".toList.contains ·) <|> commentPattern)

/-- The head of a type declaration. It captures the keyword, the name and the list of bases. -/
def typePattern : Pattern :=
  wordBoundary ++ capture 1 (lit "class" <|> lit "struct") ++ oneOrMore isBlank ++
    capture 2 namePattern ++ optional (oneOrMore isBlank ++ lit "final") ++
    optional (many isBlank ++ lit ":" ++ many isBlank ++ capture 3 baseListPattern)

/-! ### Lists of bases -/

/-- The words that qualify a base and are no part of its name. -/
def accessWords : List (List Char) :=
  ["public".toList, "private".toList, "protected".toList, "virtual".toList]

/-- The pieces of a list of bases between the commas outside angle brackets and parentheses, of
which `depth` are open. A closing one without a partner changes nothing. -/
def splitBases (depth : Nat) : List Char → List (List Char)
  | [] => [[]]
  | c :: cs =>
    if c = ',' ∧ depth = 0 then [] :: splitBases 0 cs
    else
      let depth :=
        if c = '<' ∨ c = '(' then depth + 1 else if c = '>' ∨ c = ')' then depth - 1 else depth
      match splitBases depth cs with
      | [] => [[c]]
      | piece :: pieces => (c :: piece) :: pieces

/-- The name in a piece of a list of bases: its words but the access words, joined. -/
def baseName (piece : List Char) : List Char :=
  ((Text.words piece).filter (!accessWords.contains ·)).flatten

/-- The names of a list of bases, whose comments count as a blank. Pieces without a name are left
out. -/
def parseBases (list : List Char) : List String :=
  let pieces := splitBases 0 (commentPattern.replaceAll [' '] list)
  ((pieces.map baseName).filter (!·.isEmpty)).map String.ofList

/-! ### The types of a text -/

/-- Whether the last word before the cursor is `enum`. -/
def isAfterEnum (c : Cursor) : Bool :=
  match Text.dropStart? "enum".toList.reverse (c.before.dropWhile isBlank) with
  | none => false
  | some [] => true
  | some (x :: _) => !(isAlphanumeric x || x = '_')

/-- The type that a block declares, if it declares one. -/
def typeOfBlock? (unit : SourceUnit) (b : Block) : Option TypeDecl := do
  let body ← b.body?
  let bodySpan ← b.bodySpan?
  if isAfterEnum b.keyword.start then none
  let keyword ← b.keyword.captured? 1
  let name ← b.keyword.captured? 2
  some {
    keyword := if keyword = "struct".toList then .structWord else .classWord
    name := String.ofList name
    bases := ((b.keyword.captured? 3).map parseBases).getD []
    path := unit.path
    fileId := unit.fileId
    line := b.keyword.start.line
    span := b.span
    bodySpan := bodySpan
    body := String.ofList body
  }

/-- The walk over the types of a unit, nested ones included. -/
def typeScanner (unit : SourceUnit) : Scanner :=
  Scanner.ofText typePattern .afterKeyword unit.fileId unit.text.toList

/-- The types of a unit in the order of their keywords, repeated names included. -/
def extractTypes (unit : SourceUnit) : Except UnclosedBlock (List TypeDecl) :=
  match (typeScanner unit).blocks with
  | .ok blocks => .ok (blocks.filterMap (typeOfBlock? unit))
  | .error e => .error e

/-- The last declaration of each name, in order. -/
def keepLast : List TypeDecl → List TypeDecl
  | [] => []
  | t :: ts => if ts.any (·.name = t.name) then keepLast ts else t :: keepLast ts

end HeaderSurvey
