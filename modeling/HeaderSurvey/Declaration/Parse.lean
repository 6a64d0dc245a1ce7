import HeaderSurvey.Declaration.Routines

/-!
# The declarations of a unit

Types first, and then, if they are asked for, the routines, each of which belongs to the innermost
type around it. Of types with one name the last is kept, but routines are placed among all of them.
-/

namespace HeaderSurvey

/-- What is read from a unit. -/
inductive ParseMode where
  | types
  | typesAndRoutines
  deriving Repr, DecidableEq

/-- The declarations of a unit, or the block that is never closed. -/
def SourceUnit.parse (unit : SourceUnit) (mode : ParseMode) :
    Except UnclosedBlock Declarations :=
  match extractTypes unit with
  | .error e => .error e
  | .ok types =>
    match mode with
    | .types => .ok ⟨keepLast types, []⟩
    | .typesAndRoutines =>
      match extractRoutines unit (ScopeIndex.ofTypes types) with
      | .error e => .error e
      | .ok routines => .ok ⟨keepLast types, routines⟩

end HeaderSurvey
