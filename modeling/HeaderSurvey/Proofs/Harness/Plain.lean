import HeaderSurvey.Harness.Discover
import HeaderSurvey.Proofs.Declaration.TypeName
import HeaderSurvey.Proofs.Harness.Statement
import HeaderSurvey.Proofs.TestCase.Reorder

/-!
# Test cases have plain names

The test cases that are found in a set of units have identifiers for names (`plain_of_mem_discover`),
if only the test prefix is one: the name of a type and what a test method has behind the prefix are
taken by patterns of word characters.
-/

namespace HeaderSurvey

open Pattern

/-! ### Test methods -/

/-- The name of a test method is made of the characters of the prefix and word characters. -/
theorem isWordChar_of_mem_testNames {start body : List Char}
    (hstart : ∀ x ∈ start, isWordChar x = true) {name : List Char}
    (hname : name ∈ testNames start body) : ∀ x ∈ name, isWordChar x = true := by
  obtain ⟨m, hm, hcaptured⟩ := List.mem_filterMap.mp hname
  have hmatch := (successive_matchesFrom _ _).matchAt m hm
  obtain ⟨q, hq, a, g, b, h, hway, rfl⟩ := exists_way_of_captured? hmatch hcaptured
  have hpart : (testMethodPattern start).partsUnder 1 = [literal start ++ many isWordChar] := rfl
  rw [hpart, List.mem_singleton] at hq
  subst hq
  have hover : (literal start ++ many isWordChar).Over (isWordChar · = true) :=
    ⟨hstart, fun _ hx => hx⟩
  exact hway.of_mem_upTo hover

/-! ### Test cases -/

namespace Harness

/-- The test cases among types with identifiers for names are plain. -/
theorem plain_of_mem_resolve {roots : List String} {testPrefix : String} {types : List TypeDecl}
    (htest : IsIdentifier testPrefix) (htypes : ∀ t ∈ types, IsIdentifier t.name)
    {c : TestCase} (hc : c ∈ resolve roots testPrefix types) : c.Plain := by
  have hclass := className_of_mem_resolve hc
  obtain ⟨t, ht, rfl⟩ := List.mem_map.mp hc
  have hmem : t ∈ types := by
    have hsub := (accept_perm roots types).subset ht
    exact (List.mem_filter.mp hsub).1
  refine ⟨htypes t hmem, hclass, fun m hm => ?_⟩
  obtain ⟨name, hname, rfl⟩ := List.mem_map.mp hm
  intro x hx
  rw [String.toList_ofList] at hx
  exact isWordChar_of_mem_testNames htest hname x hx

theorem isIdentifier_of_mem_types {unit : SourceUnit} {t : TypeDecl}
    (ht : t ∈ (ScannedUnit.ofUnit unit).types) : IsIdentifier t.name := by
  rw [ScannedUnit.ofUnit] at ht
  cases hparse : unit.parse .types with
  | error e =>
    rw [hparse] at ht
    simp [ScannedUnit.types] at ht
  | ok d =>
    rw [hparse] at ht
    exact SourceUnit.isWordChar_of_mem_types hparse ht

/-- **The test cases of a set of units are plain.** -/
theorem plain_of_mem_discover {settings : HarnessSettings} {units : List SourceUnit}
    (htest : IsIdentifier settings.testPrefix) :
    ∀ c ∈ (discover settings units).cases, c.Plain := by
  intro c hc
  refine plain_of_mem_resolve htest (fun t ht => ?_) hc
  obtain ⟨scanned, hscanned, ht⟩ := List.mem_flatMap.mp ht
  obtain ⟨unit, -, rfl⟩ := List.mem_map.mp hscanned
  exact isIdentifier_of_mem_types ht

end Harness
end HeaderSurvey
