import HeaderSurvey.Declaration.Basic

/-!
# Which type body holds an offset

The index lists the bodies of types by where they begin. Each entry knows the entries that were
still open where it begins, so that the innermost body around an offset is found by looking at the
last entry that begins at or before it and then outwards.
-/

namespace HeaderSurvey

/-- The body of a type and the name of the type. -/
structure ScopeEntry where
  body : Span
  owner : String
  deriving Repr, DecidableEq

namespace ScopeEntry

/-- The body that begins first comes first, and of two that begin together the longer. -/
def precedes (a b : ScopeEntry) : Bool :=
  a.body.start < b.body.start || (a.body.start = b.body.start && b.body.stop < a.body.stop)

/-- Puts an entry in front of those that it does not follow; equals keep their order. -/
def insert (e : ScopeEntry) : List ScopeEntry → List ScopeEntry
  | [] => [e]
  | x :: xs => if x.precedes e then x :: insert e xs else e :: x :: xs

/-- The entries in order, equals as they came. -/
def sort : List ScopeEntry → List ScopeEntry
  | [] => []
  | e :: es => insert e (sort es)

end ScopeEntry

/-- The bodies of types, the one that begins last first; each with the bodies that were open when
it began, the innermost first and itself included. -/
abbrev ScopeIndex := List (ScopeEntry × List ScopeEntry)

namespace ScopeIndex

/-- Adds entries in order; `opened` holds the ones that are open, the innermost first. -/
def build (index : ScopeIndex) (opened : List ScopeEntry) : List ScopeEntry → ScopeIndex
  | [] => index
  | e :: es =>
    let opened := e :: opened.dropWhile (·.body.stop ≤ e.body.start)
    build ((e, opened) :: index) opened es

/-- The index of the bodies of the types. -/
def ofTypes (types : List TypeDecl) : ScopeIndex :=
  build [] [] (ScopeEntry.sort (types.map fun t => ⟨t.bodySpan, t.name⟩))

/-- The name of the innermost type whose body holds the offset. -/
def ownerOf? (index : ScopeIndex) (offset : Nat) : Option String :=
  match index.find? (·.1.body.start ≤ offset) with
  | none => none
  | some (_, opened) => (opened.find? (offset < ·.body.stop)).map (·.owner)

end ScopeIndex
end HeaderSurvey
