import HeaderSurvey.Proofs.Declaration.Scope
import Mathlib.Data.List.FinRange
import Mathlib.Data.List.Pairwise

/-!
# The order of the index of scopes

The types whose bodies are indexed may have any bodies: nested, apart or partly overlapping, equal,
empty or reversed, in any order.  `BodyBefore` orders their positions, and the sorting of the index
is the one list of all positions in this order (`exists_sort_eq_map`, `InBodyOrder.unique`).

So the index answers as a search through all bodies does: with the last one in this order that holds
the offset (`ownerOf?_eq_search`).
-/

namespace HeaderSurvey.ScopeIndex

open ScopeEntry

variable {types : List TypeDecl}

/-! ### The order of the positions -/

/-- The body at one position comes before that at another: it begins first; of two that begin
together it ends last; of two that are equal it stands first in the list. -/
def BodyBefore (types : List TypeDecl) (i j : Fin types.length) : Prop :=
  (types.get i).bodySpan.start < (types.get j).bodySpan.start ∨
    (types.get i).bodySpan.start = (types.get j).bodySpan.start ∧
      ((types.get j).bodySpan.stop < (types.get i).bodySpan.stop ∨
        (types.get i).bodySpan.stop = (types.get j).bodySpan.stop ∧ i < j)

theorem BodyBefore.trans {i j k : Fin types.length} (hij : BodyBefore types i j)
    (hjk : BodyBefore types j k) : BodyBefore types i k := by
  unfold BodyBefore at *
  rw [Fin.lt_def] at *
  omega

theorem BodyBefore.asymm {i j : Fin types.length} (hij : BodyBefore types i j) :
    ¬ BodyBefore types j i := by
  unfold BodyBefore at *
  rw [Fin.lt_def] at *
  omega

/-- All positions, in the order of the bodies at them. -/
structure InBodyOrder (types : List TypeDecl) (order : List (Fin types.length)) : Prop where
  perm : order.Perm (List.finRange types.length)
  pairwise : order.Pairwise (BodyBefore types)

/-- There is only one such list. -/
theorem InBodyOrder.unique {order order' : List (Fin types.length)}
    (h : InBodyOrder types order) (h' : InBodyOrder types order') : order = order' :=
  (h.perm.trans h'.perm.symm).eq_of_pairwise
    (fun _ _ _ _ hij hji => absurd hji hij.asymm) h.pairwise h'.pairwise

/-! ### Sorting entries is sorting positions -/

/-- The entry of the type at a position. -/
def entryAt (types : List TypeDecl) (i : Fin types.length) : ScopeEntry :=
  ⟨(types.get i).bodySpan, (types.get i).name⟩

theorem precedes_entryAt_iff {i j : Fin types.length} :
    (entryAt types i).precedes (entryAt types j) = true ↔
      (types.get i).bodySpan.start < (types.get j).bodySpan.start ∨
        (types.get i).bodySpan.start = (types.get j).bodySpan.start ∧
          (types.get j).bodySpan.stop < (types.get i).bodySpan.stop := by
  rw [precedes, Bool.or_eq_true, Bool.and_eq_true, decide_eq_true_eq, decide_eq_true_eq,
    decide_eq_true_eq]
  rfl

theorem entries_eq_map (types : List TypeDecl) :
    entries types = (List.finRange types.length).map (entryAt types) := by
  have hget := congrArg entries (List.map_get_finRange types)
  rw [entries, List.map_map] at hget
  exact hget.symm

/-- Where an entry is inserted: behind entries that precede it, and in front of one that does not. -/
theorem exists_insert_eq_map (i : Fin types.length) (order : List (Fin types.length)) :
    ∃ front back, order = front ++ back ∧
      ScopeEntry.insert (entryAt types i) (order.map (entryAt types)) =
        (front ++ i :: back).map (entryAt types) ∧
      (∀ j ∈ front, (entryAt types j).precedes (entryAt types i) = true) ∧
      ∀ j, back.head? = some j → ¬ (entryAt types j).precedes (entryAt types i) = true := by
  induction order with
  | nil => exact ⟨[], [], rfl, rfl, by simp, by simp⟩
  | cons j order ih =>
    rw [List.map_cons, ScopeEntry.insert]
    split_ifs with hj
    · obtain ⟨front, back, rfl, heq, hfront, hback⟩ := ih
      refine ⟨j :: front, back, rfl, ?_, ?_, hback⟩
      · rw [heq]
        rfl
      · exact List.forall_mem_cons.mpr ⟨hj, hfront⟩
    · refine ⟨[], j :: order, rfl, rfl, by simp, ?_⟩
      intro k hk
      obtain rfl := Option.some.inj hk
      exact hj

/-- The sorted entries stand at the positions in the order of the bodies. -/
theorem exists_sort_eq_map {positions : List (Fin types.length)}
    (hpositions : positions.Pairwise (· < ·)) :
    ∃ order : List (Fin types.length), order.Perm positions ∧
      order.Pairwise (BodyBefore types) ∧
      ScopeEntry.sort (positions.map (entryAt types)) = order.map (entryAt types) := by
  induction positions with
  | nil => exact ⟨[], .refl _, .nil, rfl⟩
  | cons i positions ih =>
    obtain ⟨hi, hrest⟩ := List.pairwise_cons.mp hpositions
    obtain ⟨sorted, hperm, hsorted, heq⟩ := ih hrest
    obtain ⟨front, back, rfl, hinsert, hfront, hback⟩ := exists_insert_eq_map i sorted
    obtain ⟨-, hbackSorted, -⟩ := List.pairwise_append.mp hsorted
    -- an equal body at a later position stays behind
    have hhead : ∀ j, back.head? = some j → BodyBefore types i j := by
      intro j hj
      have hlt : i < j := hi j (hperm.subset (List.mem_append_right _ (List.mem_of_head? hj)))
      have hnot := hback j hj
      rw [precedes_entryAt_iff] at hnot
      unfold BodyBefore
      omega
    have hbehind : ∀ j ∈ back, BodyBefore types i j := by
      intro j hj
      cases back with
      | nil => simp at hj
      | cons k back =>
        rcases List.mem_cons.mp hj with rfl | hj
        · exact hhead j rfl
        · exact (hhead k rfl).trans ((List.pairwise_cons.mp hbackSorted).1 j hj)
    have hbefore : ∀ j ∈ front, BodyBefore types j i := by
      intro j hj
      have hprecedes := precedes_entryAt_iff.mp (hfront j hj)
      unfold BodyBefore
      omega
    refine ⟨front ++ i :: back, ?_, ?_, ?_⟩
    · exact List.perm_middle.trans (hperm.cons i)
    · rw [List.pairwise_append, List.pairwise_cons]
      obtain ⟨hfrontSorted, -, hacross⟩ := List.pairwise_append.mp hsorted
      refine ⟨hfrontSorted, ⟨hbehind, hbackSorted⟩, ?_⟩
      intro j hj
      exact List.forall_mem_cons.mpr ⟨hbefore j hj, hacross j hj⟩
    · rw [List.map_cons, ScopeEntry.sort, heq, hinsert]

/-! ### The search -/

/-- Of entries the last one that holds an offset is that of the last position that does. -/
theorem last?_map_entryAt (order : List (Fin types.length)) (offset : Nat) :
    last? (order.map (entryAt types)) offset =
      (order.filter fun i => (types.get i).bodySpan.contains offset).getLast?.map
        (entryAt types) := by
  rw [last?, ← List.map_reverse, List.find?_map, ← List.head?_filter, List.filter_reverse,
    List.head?_reverse]
  rfl

/-- **The index answers as a plain search does.**  Whatever the bodies of the types are, there is
one order of their positions by where the bodies begin, of two that begin together the one that ends
last first, and otherwise as they stand in the list.  For every offset the index gives the name of
the type at the last position in this order whose body holds it, and none exactly if no body
does. -/
theorem ownerOf?_eq_search (types : List TypeDecl) :
    ∃ order, InBodyOrder types order ∧ (∀ order', InBodyOrder types order' → order' = order) ∧
      ∀ offset,
        (ofTypes types).ownerOf? offset =
          (order.filter fun i => (types.get i).bodySpan.contains offset).getLast?.map
            (fun i => (types.get i).name) ∧
        ((ofTypes types).ownerOf? offset = none ↔
          ∀ t ∈ types, ¬ (t.bodySpan.start ≤ offset ∧ offset < t.bodySpan.stop)) := by
  obtain ⟨order, hperm, hpairwise, hsort⟩ :=
    exists_sort_eq_map (List.pairwise_lt_finRange types.length)
  have horder : InBodyOrder types order := ⟨hperm, hpairwise⟩
  refine ⟨order, horder, fun order' h => h.unique horder, fun offset => ?_⟩
  have howner : (ofTypes types).ownerOf? offset =
      (order.filter fun i => (types.get i).bodySpan.contains offset).getLast?.map
        (fun i => (types.get i).name) := by
    rw [ownerOf?_ofTypes, entries_eq_map, hsort, last?_map_entryAt, Option.map_map]
    rfl
  refine ⟨howner, ?_⟩
  have hall : ∀ i, i ∈ order := fun i => hperm.mem_iff.mpr (List.mem_finRange i)
  rw [howner, Option.map_eq_none_iff, List.getLast?_eq_none_iff, List.filter_eq_nil_iff]
  simp only [Span.contains, Bool.and_eq_true, decide_eq_true_eq]
  constructor
  · intro hnone t ht
    obtain ⟨i, rfl⟩ := List.get_of_mem ht
    exact hnone i (hall i)
  · intro hnone i _
    exact hnone _ (List.get_mem types i)

/-- Behind the end of the first body the second one, which overlaps it, still holds; the third ends
before it begins. -/
example :
    let index := ofTypes [⟨.classWord, "A", [], "a.h", 0, 1, ⟨0, 7⟩, ⟨2, 6⟩, ""⟩,
      ⟨.classWord, "B", [], "a.h", 0, 1, ⟨0, 10⟩, ⟨4, 9⟩, ""⟩,
      ⟨.classWord, "C", [], "a.h", 0, 1, ⟨0, 8⟩, ⟨7, 5⟩, ""⟩]
    [3, 5, 7, 9].map index.ownerOf? = [some "A", some "B", some "B", none] := by
  decide

end HeaderSurvey.ScopeIndex
