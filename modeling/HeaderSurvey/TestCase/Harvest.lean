import HeaderSurvey.Pattern.Basic
import HeaderSurvey.TestCase.Basic

/-!
# Test methods of a type body

A test method returns `void`, takes no parameters and has a name with the test prefix. The inside
of braces is not looked at: each outermost pair of braces counts as a semicolon, so that definitions
look like prototypes and the members of inner types are not seen.
-/

namespace HeaderSurvey

open Pattern

/-- The text with a semicolon for each stretch inside braces, of which `depth` are open. A closing
brace without a partner is dropped. -/
def collapseFrom (depth : Nat) : List Char → List Char
  | [] => []
  | c :: cs =>
    if c = '{' then
      if depth = 0 then ';' :: collapseFrom 1 cs else collapseFrom (depth + 1) cs
    else if c = '}' then collapseFrom (depth - 1) cs
    else if depth = 0 then c :: collapseFrom 0 cs
    else collapseFrom depth cs

/-- A type body with a semicolon in place of each outermost pair of braces. -/
def collapseBraces (body : List Char) : List Char :=
  collapseFrom 0 body

/-- A method of type `void` without parameters whose name begins with `start`. It captures the
name. -/
def testMethodPattern (start : List Char) : Pattern :=
  wordBoundary ++ lit "void" ++ oneOrMore isBlank ++
    capture 1 (literal start ++ many isWordChar) ++ many isBlank ++ lit "(" ++ many isBlank ++
    optional (lit "void") ++ many isBlank ++ lit ")" ++ many isBlank ++
    optional (lit "const" ++ many isBlank) ++ optional (lit "noexcept" ++ many isBlank) ++
    optional (lit "override" ++ many isBlank) ++ optional (lit "final" ++ many isBlank) ++ lit ";"

/-- The names of the test methods of a type body, in order and with repetitions. -/
def testNames (start body : List Char) : List (List Char) :=
  ((testMethodPattern start).matchesFrom (Cursor.atStart (collapseBraces body))).filterMap
    (·.captured? 1)

/-- The test methods of a type. -/
def harvest (testPrefix : String) (t : TypeDecl) : List TestMethod :=
  (testNames testPrefix.toList t.body.toList).map fun name => ⟨t.name, String.ofList name⟩

end HeaderSurvey
