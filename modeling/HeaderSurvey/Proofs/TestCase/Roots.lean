import HeaderSurvey.Proofs.Declaration.ClassName
import HeaderSurvey.Proofs.TestCase.Derivable

/-!
# The names that the resolver compares

Of a base the resolver looks at the last name, of a root name at all of it.

For a base that is a class name this is the identifier of the part where the name stops
(`QualifiedName.compared`).  Behind a qualifier with template arguments that is not the last
identifier (`not_unqualified_eq_last`).

A root name that is qualified, or has template arguments, is the last name of no base.  It has no
effect at all, and whether a base is honoured as it is written depends on its last name alone
(`honoured_iff`).  So a class whose base is literally a root name may be missed
(`not_root_honoured`).
-/

namespace HeaderSurvey

variable {roots : List String} {types : List TypeDecl} {testPrefix : String}

/-! ### Qualified bases -/

theorem unqualifiedBases_names (t : TypeDecl) (names : List QualifiedName) :
    TypeDecl.unqualifiedBases { t with bases := names.map fun n => String.ofList n.text } =
      names.map fun n => String.ofList n.stop.name.text := by
  rw [TypeDecl.unqualifiedBases, List.map_map]
  exact List.map_congr_left fun n _ => n.unqualified_text

/-- **The resolver compares the identifier where a class name stops**, which is the last one just
when the first qualifier with template arguments, if there is one, has the same identifier. -/
theorem QualifiedName.compared (n : QualifiedName) :
    unqualified (String.ofList n.text) = String.ofList n.stop.name.text ∧
      (unqualified (String.ofList n.text) = String.ofList n.last.name.text ↔
        ∀ p, n.qualifiers.find? (·.arguments.isSome) = some p →
          p.name.text = n.last.name.text) ∧
      ∀ (roots accepted : List String) (t : TypeDecl) (names : List QualifiedName),
        qualifies roots accepted { t with bases := names.map fun n => String.ofList n.text } =
          names.any fun n => roots.contains (String.ofList n.stop.name.text) ||
            accepted.contains (String.ofList n.stop.name.text) := by
  refine ⟨n.unqualified_text, ?_, ?_⟩
  · rw [n.unqualified_text, String.ofList_inj, QualifiedName.stop]
    generalize List.find? _ n.qualifiers = found
    cases found with
    | none => simp
    | some p => simp
  · intro roots accepted t names
    rw [qualifies, unqualifiedBases_names, List.any_map]
    rfl

/-- `Outer<int>::Inner`. -/
def templateMember : QualifiedName where
  rooted := false
  qualifiers := [{
    name := ⟨'O', "uter".toList, by decide, List.all_iff_forall_prop.mp (by decide)⟩
    arguments := some ⟨"int".toList, Closed.brackets (by decide)⟩
  }]
  last := {
    name := ⟨'I', "nner".toList, by decide, List.all_iff_forall_prop.mp (by decide)⟩
    arguments := none
  }

/-- A class name is not always reduced to its last identifier. -/
theorem not_unqualified_eq_last :
    ¬ ∀ n : QualifiedName, unqualified (String.ofList n.text) = String.ofList n.last.name.text := by
  intro h
  have hname := h templateMember
  rw [templateMember.unqualified_text, String.ofList_inj] at hname
  exact absurd hname (by decide)

/-! ### Root names -/

/-- What the resolver makes of the types depends only on which last names of bases are roots. -/
theorem acceptWithin_congr {roots roots' : List String}
    (h : ∀ name, unqualified name ∈ roots ↔ unqualified name ∈ roots') (budget : List TypeDecl)
    (accepted : List String) (pending : List TypeDecl) :
    acceptWithin roots budget accepted pending = acceptWithin roots' budget accepted pending := by
  have hqualifies : qualifies roots = qualifies roots' := by
    funext accepted t
    rw [Bool.eq_iff_iff, qualifies_iff, qualifies_iff]
    refine exists_congr fun base => and_congr_right fun hbase => or_congr_left ?_
    obtain ⟨name, -, rfl⟩ := List.mem_map.mp hbase
    exact h name
  induction budget generalizing accepted pending with
  | nil => rfl
  | cons t budget ih =>
    rw [acceptWithin, acceptWithin, hqualifies]
    rcases takeFirst? (qualifies roots' accepted) pending with _ | ⟨u, pending⟩
    · rfl
    · exact congrArg _ (ih _ _)

/-- Root names that are not their own last names have no effect. -/
theorem resolve_filter_roots (roots : List String) (testPrefix : String) (types : List TypeDecl) :
    resolve (roots.filter fun root => unqualified root = root) testPrefix types =
      resolve roots testPrefix types := by
  have hroots : ∀ name, unqualified name ∈ roots.filter (fun root => unqualified root = root) ↔
      unqualified name ∈ roots := by
    intro name
    rw [List.mem_filter, decide_eq_true_eq]
    exact and_iff_left (unqualified_unqualified name)
  rw [resolve, resolve, accept, accept, acceptWithin_congr hroots]

theorem mem_resolve_of_derivable {i : Fin types.length} (h : Derivable roots types i) :
    ⟨types.get i, harvest testPrefix (types.get i)⟩ ∈ resolve roots testPrefix types := by
  obtain ⟨order, -, hmem, haccept⟩ := exists_accept_eq_map roots types
  rw [resolve, haccept, List.map_map]
  exact List.mem_map.mpr ⟨i, (hmem i).mpr h, rfl⟩

theorem exists_derivable_of_mem_resolve {c : TestCase} (h : c ∈ resolve roots testPrefix types) :
    ∃ i, Derivable roots types i ∧ c.decl = types.get i := by
  obtain ⟨order, -, hmem, haccept⟩ := exists_accept_eq_map roots types
  rw [resolve, haccept, List.map_map] at h
  obtain ⟨i, hi, rfl⟩ := List.mem_map.mp h
  exact ⟨i, (hmem i).mp hi, rfl⟩

/-- **Which bases are honoured as they are written.**  Every type with the base is a test case just
when the last name of the base is a root; and only those root names count that are their own last
names. -/
theorem honoured_iff (roots : List String) (testPrefix base : String) :
    ((∀ types, ∀ t ∈ types, base ∈ t.bases →
        ⟨t, harvest testPrefix t⟩ ∈ resolve roots testPrefix types) ↔
      unqualified base ∈ roots) ∧
    ∀ types, resolve (roots.filter fun root => unqualified root = root) testPrefix types =
      resolve roots testPrefix types := by
  refine ⟨⟨fun h => ?_, fun hroot types t ht hbase => ?_⟩,
    resolve_filter_roots roots testPrefix⟩
  · -- a class on its own has no support but the roots
    let t : TypeDecl := ⟨.classWord, "", [base], "", 0, 1, ⟨0, 0⟩, ⟨0, 0⟩, ""⟩
    obtain ⟨i, hi, -⟩ := exists_derivable_of_mem_resolve (h [t] t (by simp) (by simp [t]))
    by_contra hno
    have hclosed : ∀ j, True → ∀ name ∈ ([t].get j).unqualifiedBases,
        name ∉ roots ∧ ∀ k, ([t].get k).name = name → True := by
      intro j _ name hname
      rw [List.mem_singleton.mp (List.get_mem [t] j)] at hname
      obtain rfl : name = unqualified base := by
        simpa [t, TypeDecl.unqualifiedBases] using hname
      exact ⟨hno, fun _ _ => trivial⟩
    exact hi.not_of_closed hclosed trivial
  · obtain ⟨i, rfl⟩ := List.mem_iff_get.mp ht
    exact mem_resolve_of_derivable (.root (List.mem_map_of_mem hbase) hroot)

/-- A class whose base is literally a root name may not be among the test cases. -/
theorem not_root_honoured :
    ¬ ∀ (roots : List String) (testPrefix : String) (types : List TypeDecl), ∀ t ∈ types,
      ∀ root ∈ roots, root ∈ t.bases → ∃ c ∈ resolve roots testPrefix types, c.decl = t := by
  intro h
  let t : TypeDecl := ⟨.classWord, "A", ["smlt::TestCase"], "raw.h", 1, 1, ⟨0, 30⟩, ⟨29, 29⟩, ""⟩
  obtain ⟨c, hc, -⟩ :=
    h ["smlt::TestCase"] "test_" [t] t (by simp) "smlt::TestCase" (by simp) (by simp [t])
  have hempty : resolve ["smlt::TestCase"] "test_" [t] = [] := by decide +kernel
  rw [hempty] at hc
  exact List.not_mem_nil hc

end HeaderSurvey
