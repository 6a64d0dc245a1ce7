import HeaderSurvey.TestCase.Resolve
import Mathlib.Data.List.Sublists

/-!
# The test cases are the derivable types

`Derivable roots types` is the least set of positions of the list `types` that is closed under
derivation from the root names.  `resolve_derivable` says that the acceptance loop computes this
set: it gives one test case for each derivable position and no other.

The loop works on declarations, which may occur several times, and the statement is about positions.
`Acceptance` lies between the two.  It says what each turn of the loop does to the positions that
are pending; that the loop follows it is `exists_acceptance`, and the rest is by induction over it.
-/

namespace HeaderSurvey

variable {roots : List String} {types : List TypeDecl}

/-- The positions of the types that derive from a root name, directly or through the types at other
such positions. -/
inductive Derivable (roots : List String) (types : List TypeDecl) : Fin types.length → Prop
  /-- Some base is a root name. -/
  | root {i : Fin types.length} {base : String} :
      base ∈ (types.get i).unqualifiedBases → base ∈ roots → Derivable roots types i
  /-- Some base is the name of a derivable type. -/
  | derived {i j : Fin types.length} :
      (types.get j).name ∈ (types.get i).unqualifiedBases → Derivable roots types j →
        Derivable roots types i

theorem qualifies_iff {accepted : List String} {t : TypeDecl} :
    qualifies roots accepted t = true ↔
      ∃ base ∈ t.unqualifiedBases, base ∈ roots ∨ base ∈ accepted := by
  simp only [qualifies, List.any_eq_true, Bool.or_eq_true, List.contains_iff_mem]

theorem hasBases_of_mem {t : TypeDecl} {base : String} (h : base ∈ t.unqualifiedBases) :
    t.hasBases = true := by
  obtain ⟨name, hname, -⟩ := List.mem_map.mp h
  rw [TypeDecl.hasBases, Bool.not_eq_true', List.isEmpty_eq_false_iff]
  exact List.ne_nil_of_mem hname

/-! ### Taking the first element -/

theorem takeFirst?_eq_none_iff {α : Type} {p : α → Bool} {xs : List α} :
    takeFirst? p xs = none ↔ ∀ x ∈ xs, p x = false := by
  induction xs with
  | nil => simp [takeFirst?]
  | cons x xs ih =>
    rw [takeFirst?, List.forall_mem_cons]
    by_cases hx : p x = true
    · simp [hx]
    · rw [if_neg hx, ← ih]
      rcases takeFirst? p xs with _ | ⟨y, ys⟩
      · simpa using hx
      · simp

/-- What is taken is the first element that satisfies the predicate, and nothing else is lost. -/
theorem takeFirst?_eq_some {α : Type} {p : α → Bool} {xs : List α} {y : α} {ys : List α}
    (h : takeFirst? p xs = some (y, ys)) :
    ∃ front back, xs = front ++ y :: back ∧ ys = front ++ back ∧ p y = true ∧
      ∀ x ∈ front, p x = false := by
  induction xs generalizing ys with
  | nil => simp [takeFirst?] at h
  | cons x xs ih =>
    rw [takeFirst?] at h
    by_cases hx : p x = true
    · rw [if_pos hx] at h
      obtain ⟨rfl, rfl⟩ := Prod.mk.inj (Option.some.inj h)
      exact ⟨[], xs, rfl, rfl, hx, by simp⟩
    · rw [if_neg hx] at h
      rcases hrest : takeFirst? p xs with _ | ⟨z, zs⟩
      · simp [hrest] at h
      · rw [hrest] at h
        obtain ⟨rfl, rfl⟩ := Prod.mk.inj (Option.some.inj h)
        obtain ⟨front, back, rfl, rfl, hz, hfront⟩ := ih hrest
        refine ⟨x :: front, back, rfl, rfl, hz, ?_⟩
        rw [List.forall_mem_cons]
        exact ⟨by simpa using hx, hfront⟩

/-! ### The turns of the loop -/

/-- How the loop goes on from some accepted names: which of the pending positions it accepts, in
which order, and which positions it leaves. -/
inductive Acceptance (roots : List String) (types : List TypeDecl) :
    (accepted : List String) → (pending order left : List (Fin types.length)) → Prop
  /-- No pending type qualifies. -/
  | stop {accepted : List String} {pending : List (Fin types.length)} :
      (∀ i ∈ pending, qualifies roots accepted (types.get i) = false) →
        Acceptance roots types accepted pending [] pending
  /-- The first pending type that qualifies is accepted. -/
  | take {accepted : List String} {front back order left : List (Fin types.length)}
      {i : Fin types.length} :
      (∀ j ∈ front, qualifies roots accepted (types.get j) = false) →
      qualifies roots accepted (types.get i) = true →
      Acceptance roots types ((types.get i).name :: accepted) (front ++ back) order left →
        Acceptance roots types accepted (front ++ i :: back) (i :: order) left

/-- A budget of one type for each that is pending lets the loop run to its end. -/
theorem exists_acceptance {budget : List TypeDecl} {accepted : List String}
    {pending : List (Fin types.length)} (hlen : pending.length ≤ budget.length) :
    ∃ order left, Acceptance roots types accepted pending order left ∧
      acceptWithin roots budget accepted (pending.map types.get) = order.map types.get := by
  induction budget generalizing accepted pending with
  | nil =>
    obtain rfl : pending = [] := List.length_eq_zero_iff.mp (Nat.le_zero.mp hlen)
    exact ⟨[], [], .stop (by simp), rfl⟩
  | cons t budget ih =>
    rw [acceptWithin]
    rcases htake : takeFirst? (qualifies roots accepted) (pending.map types.get) with _ | ⟨u, us⟩
    · -- nothing qualifies any more
      have hnone := takeFirst?_eq_none_iff.mp htake
      refine ⟨[], pending, .stop ?_, rfl⟩
      intro i hi
      exact hnone _ (List.mem_map_of_mem hi)
    · obtain ⟨front, back, hpending, rfl, hu, hfront⟩ := takeFirst?_eq_some htake
      obtain ⟨front, is, rfl, rfl, his⟩ := List.map_eq_append_iff.mp hpending
      obtain ⟨i, back, rfl, rfl, rfl⟩ := List.map_eq_cons_iff.mp his
      have hshort : (front ++ back).length ≤ budget.length := by
        simp only [List.length_append, List.length_cons] at hlen ⊢
        omega
      obtain ⟨order, left, hrun, hrest⟩ := @ih ((types.get i).name :: accepted) _ hshort
      refine ⟨i :: order, left, .take ?_ hu hrun, ?_⟩
      · intro j hj
        exact hfront _ (List.mem_map_of_mem hj)
      · rw [List.map_append] at hrest
        dsimp only
        rw [hrest, List.map_cons]

namespace Acceptance

variable {accepted : List String} {pending order left : List (Fin types.length)}

/-- Every pending position is accepted once or left once. -/
theorem perm (h : Acceptance roots types accepted pending order left) :
    (order ++ left).Perm pending := by
  induction h with
  | stop _ => exact List.Perm.refl _
  | take _ _ _ ih => exact (ih.cons _).trans List.perm_middle.symm

/-- **Nothing is accepted by circular support.**  If the names accepted before are those of derivable
types, so are the positions that are accepted. -/
theorem derivable (h : Acceptance roots types accepted pending order left)
    (haccepted : ∀ name ∈ accepted, ∃ j, Derivable roots types j ∧ (types.get j).name = name) :
    ∀ i ∈ order, Derivable roots types i := by
  induction h with
  | stop _ => simp
  | @take accepted front back order left i _ hi _ ih =>
    have hderivable : Derivable roots types i := by
      obtain ⟨base, hbase, hroot | hname⟩ := qualifies_iff.mp hi
      · exact .root hbase hroot
      · obtain ⟨j, hj, rfl⟩ := haccepted base hname
        exact .derived hbase hj
    rw [List.forall_mem_cons]
    refine ⟨hderivable, ih ?_⟩
    rw [List.forall_mem_cons]
    exact ⟨⟨i, hderivable, rfl⟩, haccepted⟩

/-- **Nothing is left that an acceptance unlocks.**  What is left qualifies neither by a name that
was accepted before nor by the name of a position that is accepted. -/
theorem not_qualifies (h : Acceptance roots types accepted pending order left) :
    ∀ i ∈ left, ∀ base ∈ (types.get i).unqualifiedBases,
      base ∉ roots ∧ base ∉ accepted ∧ ∀ j ∈ order, (types.get j).name ≠ base := by
  induction h with
  | stop hpending =>
    intro i hi base hbase
    have hnot := hpending i hi
    rw [← Bool.not_eq_true, qualifies_iff] at hnot
    exact ⟨fun hroot => hnot ⟨base, hbase, Or.inl hroot⟩,
      fun hname => hnot ⟨base, hbase, Or.inr hname⟩, by simp⟩
  | take _ _ _ ih =>
    intro i hi base hbase
    obtain ⟨hroot, haccepted, horder⟩ := ih i hi base hbase
    rw [List.mem_cons, not_or] at haccepted
    refine ⟨hroot, haccepted.2, ?_⟩
    rw [List.forall_mem_cons]
    exact ⟨haccepted.1 ∘ Eq.symm, horder⟩

end Acceptance

/-! ### The whole loop -/

/-- The positions of the types that name any base. -/
def positionsWithBases (types : List TypeDecl) : List (Fin types.length) :=
  (List.finRange types.length).filter fun i => (types.get i).hasBases

theorem map_get_positionsWithBases (types : List TypeDecl) :
    (positionsWithBases types).map types.get = types.filter (·.hasBases) := by
  have hfilter := List.filter_map (f := types.get) (p := (·.hasBases)) (l := .finRange types.length)
  rw [List.map_get_finRange] at hfilter
  rw [hfilter]
  rfl

theorem mem_positionsWithBases {i : Fin types.length} :
    i ∈ positionsWithBases types ↔ (types.get i).hasBases = true := by
  simp [positionsWithBases]

/-- A run over all types with bases accepts every derivable position: what is left has no support
among the accepted ones. -/
theorem Acceptance.mem_order_of_derivable {order left : List (Fin types.length)}
    (h : Acceptance roots types [] (positionsWithBases types) order left) {i : Fin types.length}
    (hi : Derivable roots types i) : i ∈ order := by
  -- a position that is not accepted is left, and then none of its bases is accepted either
  have hunsupported : ∀ i base, base ∈ (types.get i).unqualifiedBases → i ∉ order →
      base ∉ roots ∧ ∀ j ∈ order, (types.get j).name ≠ base := by
    intro i base hbase hnot
    have hmem := h.perm.mem_iff.mpr (mem_positionsWithBases.mpr (hasBases_of_mem hbase))
    have hleft := (List.mem_append.mp hmem).resolve_left hnot
    obtain ⟨hroot, -, horder⟩ := h.not_qualifies i hleft base hbase
    exact ⟨hroot, horder⟩
  induction hi with
  | root hbase hroot =>
    by_contra hnot
    exact (hunsupported _ _ hbase hnot).1 hroot
  | derived hbase _ ih =>
    by_contra hnot
    exact (hunsupported _ _ hbase hnot).2 _ ih rfl

/-- The loop over all types with bases follows its turns to the end. -/
theorem exists_acceptance_of_accept (roots : List String) (types : List TypeDecl) :
    ∃ order left, Acceptance roots types [] (positionsWithBases types) order left ∧
      accept roots types = order.map types.get := by
  have hlen : (positionsWithBases types).length ≤ (types.filter (·.hasBases)).length := by
    have hlen := congrArg List.length (map_get_positionsWithBases types)
    rw [List.length_map] at hlen
    exact Nat.le_of_eq hlen
  obtain ⟨order, left, hrun, heq⟩ := @exists_acceptance roots types _ [] _ hlen
  rw [map_get_positionsWithBases] at heq
  exact ⟨order, left, hrun, heq⟩

/-- What a run over all types with bases accepts are the derivable positions, each once. -/
theorem Acceptance.nodup_and_mem_iff {order left : List (Fin types.length)}
    (h : Acceptance roots types [] (positionsWithBases types) order left) :
    order.Nodup ∧ ∀ i, i ∈ order ↔ Derivable roots types i := by
  have hnodup : (order ++ left).Nodup :=
    h.perm.nodup_iff.mpr ((List.nodup_finRange _).filter _)
  exact ⟨(List.nodup_append.mp hnodup).1,
    fun i => ⟨h.derivable (by simp) i, h.mem_order_of_derivable⟩⟩

/-- The accepted types are those at the derivable positions, each position once. -/
theorem exists_accept_eq_map (roots : List String) (types : List TypeDecl) :
    ∃ order : List (Fin types.length), order.Nodup ∧
      (∀ i, i ∈ order ↔ Derivable roots types i) ∧ accept roots types = order.map types.get := by
  obtain ⟨order, left, hrun, heq⟩ := exists_acceptance_of_accept roots types
  exact ⟨order, hrun.nodup_and_mem_iff.1, hrun.nodup_and_mem_iff.2, heq⟩

/-- A set of positions whose types find support only inside the set holds no derivable one. -/
theorem Derivable.not_of_closed {cycle : Fin types.length → Prop}
    (hcycle : ∀ i, cycle i → ∀ base ∈ (types.get i).unqualifiedBases,
      base ∉ roots ∧ ∀ j, (types.get j).name = base → cycle j)
    {i : Fin types.length} (hi : Derivable roots types i) : ¬ cycle i := by
  induction hi with
  | root hbase hroot => exact fun hin => (hcycle _ hin _ hbase).1 hroot
  | derived hbase _ ih => exact fun hin => ih ((hcycle _ hin _ hbase).2 _ rfl)

/-- **Resolving computes the least fixed point.**  For every list of types, whatever their order,
repetitions and cycles, there is one test case for each derivable position and no other, and it
holds the declaration at this position with its test methods.  In particular, types that support
only each other are not among the test cases. -/
theorem resolve_derivable (roots : List String) (testPrefix : String) (types : List TypeDecl) :
    ∃ order : List (Fin types.length), order.Nodup ∧
      (∀ i, i ∈ order ↔ Derivable roots types i) ∧
      resolve roots testPrefix types =
        order.map (fun i => ⟨types.get i, harvest testPrefix (types.get i)⟩) ∧
      ∀ cycle : Fin types.length → Prop,
        (∀ i, cycle i → ∀ base ∈ (types.get i).unqualifiedBases,
          base ∉ roots ∧ ∀ j, (types.get j).name = base → cycle j) →
        ∀ i, cycle i → i ∉ order := by
  obtain ⟨order, hnodup, hmem, haccept⟩ := exists_accept_eq_map roots types
  refine ⟨order, hnodup, hmem, ?_, ?_⟩
  · rw [resolve, haccept, List.map_map]
    rfl
  · intro cycle hcycle i hi horder
    exact ((hmem i).mp horder).not_of_closed hcycle hi

end HeaderSurvey
