import HeaderSurvey.Proofs.TestCase.Derivable
import Mathlib.Data.List.Perm.Subperm

/-!
# The test cases do not depend on the order of the types

Whether a type is accepted is a question about the list of all types that only their members answer:
`Derives` asks it of a type, not of a position, and more types only make more of them derive
(`Derives.mono`).  The accepted types are those that derive, up to order (`accept_perm`).  So
reordered types give reordered test cases (`resolve_perm`), and among more types every test case is
found again (`resolve_subperm`).
-/

namespace HeaderSurvey

open List

variable {roots : List String} {types types' : List TypeDecl} {t : TypeDecl}

/-! ### Sublists up to order -/

theorem flatMap_sublist {α β : Type} (f : α → List β) {xs ys : List α} (h : xs <+ ys) :
    xs.flatMap f <+ ys.flatMap f := by
  induction h with
  | slnil => exact Sublist.refl []
  | cons y _ ih => exact ih.trans (sublist_append_right (f y) _)
  | cons_cons x _ ih => exact ih.append_left (f x)

theorem flatMap_subperm {α β : Type} (f : α → List β) {xs ys : List α} (h : xs <+~ ys) :
    xs.flatMap f <+~ ys.flatMap f := by
  obtain ⟨zs, hperm, hsub⟩ := h
  exact ⟨zs.flatMap f, hperm.flatMap_right f, flatMap_sublist f hsub⟩

theorem map_subperm {α β : Type} (f : α → β) {xs ys : List α} (h : xs <+~ ys) :
    xs.map f <+~ ys.map f := by
  obtain ⟨zs, hperm, hsub⟩ := h
  exact ⟨zs.map f, hperm.map f, hsub.map f⟩

/-! ### Types that derive -/

/-- Whether some base of the type is a root name or the name of a derivable type. -/
def Derives (roots : List String) (types : List TypeDecl) (t : TypeDecl) : Prop :=
  ∃ base ∈ t.unqualifiedBases,
    base ∈ roots ∨ ∃ i, Derivable roots types i ∧ (types.get i).name = base

theorem derives_get_iff {i : Fin types.length} :
    Derives roots types (types.get i) ↔ Derivable roots types i := by
  constructor
  · rintro ⟨base, hbase, hroot | ⟨j, hj, rfl⟩⟩
    · exact .root hbase hroot
    · exact .derived hbase hj
  · intro h
    cases h with
    | root hbase hroot => exact ⟨_, hbase, Or.inl hroot⟩
    | derived hbase hj => exact ⟨_, hbase, Or.inr ⟨_, hj, rfl⟩⟩

/-- Among more types the type at a derivable position is still at one. -/
theorem Derivable.exists_of_subset {i : Fin types.length} (hi : Derivable roots types i)
    (hsub : types ⊆ types') : ∃ k, types'.get k = types.get i ∧ Derivable roots types' k := by
  induction hi with
  | @root i base hbase hroot =>
    obtain ⟨k, hk⟩ := List.get_of_mem (hsub (List.get_mem types i))
    rw [← hk] at hbase
    exact ⟨k, hk, .root hbase hroot⟩
  | @derived i j hbase _ ih =>
    obtain ⟨k, hk⟩ := List.get_of_mem (hsub (List.get_mem types i))
    obtain ⟨l, hl, hderivable⟩ := ih
    rw [← hk, ← hl] at hbase
    exact ⟨k, hk, .derived hbase hderivable⟩

theorem Derives.mono (h : Derives roots types t) (hsub : types ⊆ types') :
    Derives roots types' t := by
  obtain ⟨base, hbase, hroot | ⟨j, hj, rfl⟩⟩ := h
  · exact ⟨base, hbase, Or.inl hroot⟩
  · obtain ⟨k, hk, hderivable⟩ := hj.exists_of_subset hsub
    exact ⟨_, hbase, Or.inr ⟨k, hderivable, congrArg TypeDecl.name hk⟩⟩

/-! ### The accepted types -/

open Classical in
/-- The accepted types are those that derive, in some order. -/
theorem accept_perm (roots : List String) (types : List TypeDecl) :
    accept roots types ~ types.filter (Derives roots types) := by
  obtain ⟨order, hnodup, hmem, haccept⟩ := exists_accept_eq_map roots types
  have horder : order ~
      (List.finRange types.length).filter fun i => Derives roots types (types.get i) := by
    refine (List.perm_ext_iff_of_nodup hnodup ((List.nodup_finRange _).filter _)).mpr ?_
    intro i
    simp [hmem, ← derives_get_iff]
  have hfilter := List.filter_map (f := types.get) (p := fun t => Derives roots types t)
    (l := .finRange types.length)
  rw [List.map_get_finRange] at hfilter
  rw [haccept, hfilter]
  exact horder.map types.get

/-- **Reordered types give reordered test cases.** -/
theorem resolve_perm (roots : List String) (testPrefix : String) (h : types ~ types') :
    resolve roots testPrefix types ~ resolve roots testPrefix types' := by
  have hderives : ∀ t, Derives roots types t ↔ Derives roots types' t := fun t =>
    ⟨fun ht => ht.mono h.subset, fun ht => ht.mono h.symm.subset⟩
  have haccept : accept roots types ~ accept roots types' := by
    classical
    calc accept roots types ~ types.filter (Derives roots types) := accept_perm roots types
      _ ~ types'.filter (Derives roots types) := h.filter _
      _ ~ types'.filter (Derives roots types') := by simp only [hderives]; rfl
      _ ~ accept roots types' := (accept_perm roots types').symm
  exact haccept.map _

/-- **Among more types every test case is found again.** -/
theorem resolve_subperm (roots : List String) (testPrefix : String) (h : types <+~ types') :
    resolve roots testPrefix types <+~ resolve roots testPrefix types' := by
  have haccept : accept roots types <+~ accept roots types' := by
    classical
    have hmore : types'.filter (Derives roots types) <+ types'.filter (Derives roots types') := by
      refine List.monotone_filter_right types' ?_
      intro t ht
      exact decide_eq_true ((of_decide_eq_true ht).mono h.subset)
    have hfilter := (h.filter (Derives roots types)).trans hmore.subperm
    exact (accept_perm roots types).subperm.trans
      (hfilter.trans (accept_perm roots types').symm.subperm)
  exact map_subperm _ haccept

end HeaderSurvey
