import HeaderSurvey.Proofs.TestCase.Derivable
import Mathlib.Order.Fin.Basic

/-!
# The order of the test cases

Any order of the derivable positions will do in which each type finds the support of one of its
bases in front of it (`Supported`).  The acceptance loop gives one of them, and of all of them the
least one, compared position by position from the front (`resolve_canonical`): it never takes a
later type while an earlier one could be taken.

The proof follows the turns of the loop.  Whatever other order is compared with the one of the loop,
its first position qualifies at the same turn, so it is pending and not in front of the one that the
loop takes (`Acceptance.eq_or_lex`).
-/

namespace HeaderSurvey

variable {roots : List String} {types : List TypeDecl}

/-- The derivable positions in some order, each once. -/
structure Enumerates (roots : List String) (types : List TypeDecl)
    (order : List (Fin types.length)) : Prop where
  nodup : order.Nodup
  mem_iff : ∀ i, i ∈ order ↔ Derivable roots types i

/-- Each type of the order has a base that is a root name or the name of a type in front of it. -/
def Supported (roots : List String) (types : List TypeDecl) (order : List (Fin types.length)) :
    Prop :=
  ∀ front i back, order = front ++ i :: back → ∃ base ∈ (types.get i).unqualifiedBases,
    base ∈ roots ∨ ∃ j ∈ front, (types.get j).name = base

/-! ### Support from names that are accepted -/

/-- Each type of the order qualifies by the accepted names and those of the types in front of it. -/
def SupportedFrom (roots : List String) (types : List TypeDecl) :
    (accepted : List String) → List (Fin types.length) → Prop
  | _, [] => True
  | accepted, i :: order =>
    qualifies roots accepted (types.get i) = true ∧
      SupportedFrom roots types ((types.get i).name :: accepted) order

theorem supportedFrom_iff {accepted : List String} {order : List (Fin types.length)} :
    SupportedFrom roots types accepted order ↔
      ∀ front i back, order = front ++ i :: back → ∃ base ∈ (types.get i).unqualifiedBases,
        base ∈ roots ∨ base ∈ accepted ∨ ∃ j ∈ front, (types.get j).name = base := by
  induction order generalizing accepted with
  | nil => simp [SupportedFrom]
  | cons i order ih =>
    rw [SupportedFrom, qualifies_iff, ih]
    constructor
    · rintro ⟨⟨base, hbase, hfirst⟩, hrest⟩ front k back heq
      cases front with
      | nil =>
        obtain ⟨rfl, rfl⟩ := List.cons.inj heq
        exact ⟨base, hbase, hfirst.imp_right Or.inl⟩
      | cons j front =>
        obtain ⟨rfl, rfl⟩ := List.cons.inj heq
        obtain ⟨base, hbase, hsupport⟩ := hrest front k back rfl
        refine ⟨base, hbase, hsupport.imp_right ?_⟩
        -- the name accepted last is that of the first type in front
        rintro (hmem | ⟨j, hj, hname⟩)
        · rcases List.mem_cons.mp hmem with rfl | hmem
          · exact Or.inr ⟨i, List.mem_cons_self .., rfl⟩
          · exact Or.inl hmem
        · exact Or.inr ⟨j, List.mem_cons_of_mem _ hj, hname⟩
    · intro hall
      constructor
      · obtain ⟨base, hbase, hsupport⟩ := hall [] i order rfl
        refine ⟨base, hbase, hsupport.imp_right ?_⟩
        rintro (hmem | ⟨j, hj, -⟩)
        · exact hmem
        · exact absurd hj List.not_mem_nil
      · rintro front k back rfl
        obtain ⟨base, hbase, hsupport⟩ := hall (i :: front) k back rfl
        refine ⟨base, hbase, hsupport.imp_right ?_⟩
        rintro (hmem | ⟨j, hj, hname⟩)
        · exact Or.inl (List.mem_cons_of_mem _ hmem)
        · rcases List.mem_cons.mp hj with rfl | hj
          · exact Or.inl (List.mem_cons.mpr (Or.inl hname.symm))
          · exact Or.inr ⟨j, hj, hname⟩

/-- An order is supported exactly if it is when no name is accepted yet. -/
theorem supported_iff {order : List (Fin types.length)} :
    Supported roots types order ↔ SupportedFrom roots types [] order := by
  rw [supportedFrom_iff, Supported]
  simp only [List.not_mem_nil, false_or]

/-! ### The order of the loop -/

namespace Acceptance

variable {accepted : List String} {pending order left : List (Fin types.length)}

/-- The loop accepts each type when it qualifies. -/
theorem supportedFrom (h : Acceptance roots types accepted pending order left) :
    SupportedFrom roots types accepted order := by
  induction h with
  | stop _ => trivial
  | take _ hi _ ih => exact ⟨hi, ih⟩

/-- **No other order is before that of the loop.**  Of two orders of the same positions that the
accepted names support, the one of the loop has the earlier position where they first differ. -/
theorem eq_or_lex (h : Acceptance roots types accepted pending order left)
    (hpending : pending.Pairwise (· < ·)) {other : List (Fin types.length)}
    (hperm : other.Perm order) (hother : SupportedFrom roots types accepted other) :
    other = order ∨ List.Lex (· < ·) order other := by
  induction h generalizing other with
  | stop _ => exact Or.inl hperm.eq_nil
  | @take accepted front back order left i hfront hi hrun ih =>
    obtain ⟨hfrontOrder, hbackOrder, hacross⟩ := List.pairwise_append.mp hpending
    obtain ⟨hlt, hbehind⟩ := List.pairwise_cons.mp hbackOrder
    cases other with
    | nil => exact absurd hperm.symm.eq_nil (List.cons_ne_nil _ _)
    | cons j other =>
      obtain ⟨hj, hrest⟩ := hother
      -- what qualifies now is the position that the loop takes or a later one
      have hmem : j = i ∨ j ∈ back := by
        have htaken : j ∈ i :: order := hperm.subset (List.mem_cons_self ..)
        rcases List.mem_cons.mp htaken with rfl | hlater
        · exact Or.inl rfl
        · have hwaiting := hrun.perm.subset (List.mem_append_left _ hlater)
          rcases List.mem_append.mp hwaiting with hin | hin
          · rw [hfront j hin] at hj
            cases hj
          · exact Or.inr hin
      rcases hmem with rfl | hback
      · have hpending' : (front ++ back).Pairwise (· < ·) := by
          refine List.pairwise_append.mpr ⟨hfrontOrder, hbehind, ?_⟩
          exact fun a ha b hb => hacross a ha b (List.mem_cons_of_mem _ hb)
        rcases ih hpending' hperm.cons_inv hrest with rfl | hlex
        · exact Or.inl rfl
        · exact Or.inr (.cons hlex)
      · exact Or.inr (.rel (hlt j hback))

end Acceptance

theorem pairwise_positionsWithBases (types : List TypeDecl) :
    (positionsWithBases types).Pairwise (· < ·) :=
  (List.pairwise_lt_finRange _).filter _

/-- Two enumerations hold the same positions. -/
theorem Enumerates.perm {order other : List (Fin types.length)}
    (h : Enumerates roots types order) (h' : Enumerates roots types other) : other.Perm order :=
  (List.perm_ext_iff_of_nodup h'.nodup h.nodup).mpr fun i => (h'.mem_iff i).trans (h.mem_iff i).symm

/-- No order of the elements of an ascending list is before the list. -/
theorem not_lex_of_pairwise {α : Type} [LinearOrder α] {xs ys : List α} (hperm : ys.Perm xs)
    (hxs : xs.Pairwise (· < ·)) : ¬ List.Lex (· < ·) ys xs := by
  induction xs generalizing ys with
  | nil =>
    intro hlex
    cases hlex
  | cons x xs ih =>
    obtain ⟨hx, hxs⟩ := List.pairwise_cons.mp hxs
    intro hlex
    cases hlex with
    | nil => exact absurd hperm.symm.eq_nil (List.cons_ne_nil _ _)
    | cons hrest => exact ih hperm.cons_inv hxs hrest
    | @rel y ys _ _ hlt =>
      rcases List.mem_cons.mp (hperm.subset (List.mem_cons_self ..)) with rfl | hy
      · exact lt_irrefl _ hlt
      · exact lt_asymm hlt (hx y hy)

/-- **The order of the test cases is canonical.**  There is one test case for each derivable
position.  In the order of the test cases each type finds one of its bases among the root names or
the names in front of it, and of all orders of these positions of which that is true this one is the
least, position by position.  So if the order in which the types were given is one of them, it is
kept. -/
theorem resolve_canonical (roots : List String) (testPrefix : String) (types : List TypeDecl) :
    ∃ order : List (Fin types.length),
      Enumerates roots types order ∧ Supported roots types order ∧
      resolve roots testPrefix types =
        order.map (fun i => ⟨types.get i, harvest testPrefix (types.get i)⟩) ∧
      (∀ other, Enumerates roots types other → Supported roots types other →
        other = order ∨ List.Lex (· < ·) order other) ∧
      ∀ given, Enumerates roots types given → given.Pairwise (· < ·) →
        Supported roots types given → order = given := by
  obtain ⟨order, left, hrun, haccept⟩ := exists_acceptance_of_accept roots types
  have horder : Enumerates roots types order :=
    ⟨hrun.nodup_and_mem_iff.1, hrun.nodup_and_mem_iff.2⟩
  have hleast : ∀ other, Enumerates roots types other → Supported roots types other →
      other = order ∨ List.Lex (· < ·) order other := fun other hother hsupported =>
    hrun.eq_or_lex (pairwise_positionsWithBases types) (horder.perm hother)
      (supported_iff.mp hsupported)
  refine ⟨order, horder, supported_iff.mpr hrun.supportedFrom, ?_, hleast, ?_⟩
  · rw [resolve, haccept, List.map_map]
    rfl
  · intro given hgiven hascending hsupported
    rcases hleast given hgiven hsupported with heq | hlex
    · exact heq.symm
    · exact absurd hlex (not_lex_of_pairwise (hgiven.perm horder) hascending)

/-- The second type is accepted when the third one is, and then before the fourth. -/
example :
    let type (name base : String) : TypeDecl :=
      ⟨.classWord, name, [base], "a.h", 0, 1, ⟨0, 0⟩, ⟨0, 0⟩, ""⟩
    (resolve ["R"] "test" [type "A" "R", type "B" "C", type "C" "R", type "D" "R"]).map
      (·.decl.name) = ["A", "C", "B", "D"] := by
  decide +kernel

end HeaderSurvey
