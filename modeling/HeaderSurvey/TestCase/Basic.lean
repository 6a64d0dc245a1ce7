import HeaderSurvey.Declaration.Basic

/-!
# Test cases

A test case is a type that derives from one of the root names, with the test methods in its body.
-/

namespace HeaderSurvey

/-- A method that is run as a test. -/
structure TestMethod where
  className : String
  name : String
  deriving Repr, DecidableEq

/-- The name of the test in listings and reports. -/
def TestMethod.qualifiedName (m : TestMethod) : String :=
  m.className ++ "::" ++ m.name

/-- A type that is a test case, and its tests in the order of the text. -/
structure TestCase where
  decl : TypeDecl
  methods : List TestMethod
  deriving Repr, DecidableEq

/-- The names of all tests, in order. -/
def listTests (cases : List TestCase) : List String :=
  cases.flatMap fun c => c.methods.map TestMethod.qualifiedName

end HeaderSurvey
