import HeaderSurvey.Harness.Discover
import HeaderSurvey.Proofs.Harness.Filling
import HeaderSurvey.Proofs.TestCase.Reorder
import HeaderSurvey.Proofs.Text.Sorted

/-!
# Discovery does not depend on the order of the files

The files are parsed one by one, so the order in which they are given is that of their types and of
their failures and of nothing else.  **`discover_order_free`** puts this together with
`resolve_perm`, `resolve_subperm` and what is known of the emitted text: reordered files give the
same harness with its registrations reordered, and more files give more test cases.

A harness holds its registrations in one place, or in several if the type of the runner holds their
mark; the places are the same for both orders (`Reordered.text`).
-/

namespace HeaderSurvey.Harness

open List Text

/-! ### The parsed files -/

section Discover

variable {units units' : List SourceUnit}

theorem discover_cases_perm (settings : HarnessSettings) (h : units ~ units') :
    (discover settings units).cases ~ (discover settings units').cases :=
  resolve_perm _ _ ((h.map ScannedUnit.ofUnit).flatMap_right _)

theorem discover_failures_perm (settings : HarnessSettings) (h : units ~ units') :
    (discover settings units).failures ~ (discover settings units').failures :=
  (h.map ScannedUnit.ofUnit).filterMap _

theorem discover_cases_subperm (settings : HarnessSettings) (h : units <+~ units') :
    (discover settings units).cases <+~ (discover settings units').cases :=
  resolve_subperm _ _ (flatMap_subperm _ (map_subperm ScannedUnit.ofUnit h))

end Discover

/-! ### The emitted text -/

variable {settings : HarnessSettings} {cases cases' : List TestCase}

/-- The include block depends on the set of the paths alone. -/
theorem includeBlock_congr (h : ∀ path, path ∈ cases.map (fun c => includePath c.decl.path) ↔
    path ∈ cases'.map fun c => includePath c.decl.path) :
    includeBlock cases = includeBlock cases' := by
  rw [includeBlock, includeBlock, sortOnce_congr h]

theorem includeBlock_perm (h : cases ~ cases') : includeBlock cases = includeBlock cases' := by
  have hpaths := h.map fun c => includePath c.decl.path
  apply includeBlock_congr
  intro path
  exact hpaths.mem_iff

theorem preamble_perm (h : cases ~ cases') :
    preamble settings cases = preamble settings cases' := by
  rw [preamble, preamble, includeBlock_perm h]

/-- What reordering the files does to a scan and to the harness for its test cases. -/
structure Reordered (settings : HarnessSettings) (scan scan' : Scan) : Prop where
  cases : scan.cases ~ scan'.cases
  failures : scan.failures ~ scan'.failures
  tests : listTests scan.cases ~ listTests scan'.cases
  includes : includeBlock scan.cases = includeBlock scan'.cases
  preamble : preamble settings scan.cases = Harness.preamble settings scan'.cases
  registrations : scan.cases.map registration ~ scan'.cases.map registration
  /-- Behind the preamble, which is the same, the harnesses differ in nothing but the order of their
  registrations. -/
  text : ∃ pieces : List (List Char), (scan.cases ≠ [] → 2 ≤ pieces.length) ∧
    (emit settings scan.cases).toList =
      Harness.preamble settings scan.cases ++ join (registrationBlock scan.cases) pieces ∧
    (emit settings scan'.cases).toList =
      Harness.preamble settings scan.cases ++ join (registrationBlock scan'.cases) pieces

/-- What more files do to a scan. -/
structure Extended (scan scan' : Scan) : Prop where
  cases : scan.cases <+~ scan'.cases
  tests : listTests scan.cases <+~ listTests scan'.cases

/-- Reordered test cases have the same main function around their registrations. -/
theorem exists_join_mainFunction_perm (settings : HarnessSettings) (h : cases ~ cases') :
    ∃ pieces : List (List Char), (cases ≠ [] → 2 ≤ pieces.length) ∧
      mainFunction settings cases = join (registrationBlock cases) pieces ∧
      mainFunction settings cases' = join (registrationBlock cases') pieces := by
  by_cases hcases : cases = []
  · subst hcases
    obtain rfl := h.symm.eq_nil
    exact ⟨[emptyMain], by simp, rfl, rfl⟩
  · obtain ⟨pieces, hlen, hpieces⟩ := exists_join_mainFunction settings
    have hcases' : cases' ≠ [] := by
      rintro rfl
      exact hcases h.eq_nil
    exact ⟨pieces, fun _ => hlen, hpieces cases hcases, hpieces cases' hcases'⟩

theorem reordered_of_perm (settings : HarnessSettings) {units units' : List SourceUnit}
    (h : units ~ units') :
    Reordered settings (discover settings units) (discover settings units') := by
  have hcases := discover_cases_perm settings h
  obtain ⟨pieces, hlen, hmain, hmain'⟩ := exists_join_mainFunction_perm settings hcases
  refine ⟨hcases, discover_failures_perm settings h, hcases.flatMap_right _,
    includeBlock_perm hcases, preamble_perm hcases, hcases.map _, pieces, hlen, ?_, ?_⟩
  · rw [toList_emit, hmain]
  · rw [toList_emit, hmain', preamble_perm hcases]

/-- **Discovery does not depend on the order of the files and grows with their set.**  For every
setting and all files, of which some may declare types of the same name and some may not parse:
reordered files give a reordered scan, and whatever is found among some of the files is found at
least as often among all of them. -/
theorem discover_order_free (settings : HarnessSettings) (units units' : List SourceUnit) :
    (units ~ units' →
      Reordered settings (discover settings units) (discover settings units')) ∧
    (units <+~ units' → Extended (discover settings units) (discover settings units')) := by
  constructor
  · intro h
    exact reordered_of_perm settings h
  · intro h
    have hcases := discover_cases_subperm settings h
    exact ⟨hcases, flatMap_subperm _ hcases⟩

/-- A type that derives from one of another file is found in both orders of the two files. -/
theorem discover_order_free_crossing :
    let base : SourceUnit := ⟨"base.h", "class Base : TestCase \x7b void test_a(); \x7d;", 0⟩
    let derived : SourceUnit := ⟨"derived.h", "class Derived : Base \x7b void test_b(); \x7d;", 1⟩
    listTests (discover {} [derived, base]).cases = ["Base::test_a", "Derived::test_b"] ∧
      [derived, base] ~ [base, derived] ∧
      Reordered {} (discover {} [derived, base]) (discover {} [base, derived]) ∧
      [base] <+~ [derived, base] ∧
      Extended (discover {} [base]) (discover {} [derived, base]) := by
  intro base derived
  have hperm : [derived, base] ~ [base, derived] := List.Perm.swap base derived []
  have hsub : [base] <+~ [derived, base] := (List.sublist_cons_self derived [base]).subperm
  exact ⟨by decide +kernel, hperm, (discover_order_free {} _ _).1 hperm, hsub,
    (discover_order_free {} _ _).2 hsub⟩

end HeaderSurvey.Harness
