import HeaderSurvey.Proofs.Declaration.ForestRoutines
import HeaderSurvey.Proofs.Declaration.ForestTypes
import HeaderSurvey.Proofs.Declaration.TypeName

/-!
# Forests of declarations are recovered

The main result, `SourceUnit.parse_render`: what is read from the text of a forest is what the forest
lists.
-/

namespace HeaderSurvey

/-- **Parsing recovers every forest of declarations.**  From its text come its types with all they
hold, of types with one name the last, and its prototypes, each in the scope of the type whose
member it is; or the types alone, where no routines are asked for.  No definition is taken for a
prototype, and nothing in the body of one for a declaration. -/
theorem SourceUnit.parse_render (forest : Forest) (path : String) (fileId : Nat) :
    let unit : SourceUnit := ⟨path, String.ofList forest.render, fileId⟩
    let types := (forest.types path fileId []).pwFilter fun a b => a.name ≠ b.name
    unit.parse .typesAndRoutines = .ok ⟨types, forest.routines .file []⟩ ∧
      unit.parse .types = .ok ⟨types, []⟩ := by
  intro unit types
  have htypes : extractTypes unit = .ok (forest.types path fileId []) :=
    extractTypes_render forest path fileId
  have hroutines := extractRoutines_render forest path fileId
  have hkept : keepLast (forest.types path fileId []) = types := keepLast_eq_pwFilter _
  constructor
  · rw [parse, htypes]
    dsimp only
    rw [hroutines, hkept]
  · rw [parse, htypes]
    dsimp only
    rw [hkept]

/-- A member and a prototype behind the type. -/
example :
    (SourceUnit.parse ⟨"a.h", "struct A \x7b\n  int f();\n\x7d;\nint g(A a);\n", 0⟩
      .typesAndRoutines).toOption =
      some ⟨[⟨.structWord, "A", [], "a.h", 0, 1, ⟨0, 23⟩, ⟨10, 22⟩, "\n  int f();\n"⟩],
        [⟨"f", "int", "", .type "A", 13, 2⟩, ⟨"g", "int", "A a", .file, 25, 4⟩]⟩ := by
  decide +kernel

end HeaderSurvey
