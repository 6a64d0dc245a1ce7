import HeaderSurvey.Log
import HeaderSurvey.TestCase.Harvest

/-!
# Which types are test cases

A type is accepted when the last name of one of its bases is a root name or the name of a type that
was accepted before. After each acceptance the search begins again with the first type that is
left, so that a type is accepted as soon as its turn allows, wherever its base is declared.
-/

namespace HeaderSurvey

/-- Whether the last name of some base is a root name or an accepted one. -/
def qualifies (roots accepted : List String) (t : TypeDecl) : Bool :=
  t.unqualifiedBases.any fun base => roots.contains base || accepted.contains base

/-- The first element that satisfies `p`, and the list without it. -/
def takeFirst? {α : Type} (p : α → Bool) : List α → Option (α × List α)
  | [] => none
  | x :: xs =>
    if p x then some (x, xs)
    else
      match takeFirst? p xs with
      | some (y, ys) => some (y, x :: ys)
      | none => none

/-- The pending types that can be accepted after the accepted names, in the order in which they
are; one for each type of the budget at most. -/
def acceptWithin (roots : List String) :
    (budget : List TypeDecl) → (accepted : List String) → (pending : List TypeDecl) → List TypeDecl
  | [], _, _ => []
  | _ :: budget, accepted, pending =>
    match takeFirst? (qualifies roots accepted) pending with
    | none => []
    | some (t, pending) => t :: acceptWithin roots budget (t.name :: accepted) pending

/-- The types that derive from a root name, directly or through others, in the order in which they
are accepted. -/
def accept (roots : List String) (types : List TypeDecl) : List TypeDecl :=
  let pending := types.filter (·.hasBases)
  acceptWithin roots pending [] pending

/-- The test cases among the types, in the order in which they are accepted. -/
def resolve (roots : List String) (testPrefix : String) (types : List TypeDecl) :
    List TestCase :=
  (accept roots types).map fun t => ⟨t, harvest testPrefix t⟩

/-- What is logged when a test case is accepted. -/
def TestCase.records (c : TestCase) : List Record :=
  let debug (message : String) : Record := ⟨.debug, "declscan::resolve", message⟩
  debug ("accepted test case " ++ c.decl.name ++ " (" ++ toString c.methods.length ++
      " methods) from " ++ c.decl.path) ::
    c.methods.map fun m => debug ("harvested " ++ m.qualifiedName)

end HeaderSurvey
