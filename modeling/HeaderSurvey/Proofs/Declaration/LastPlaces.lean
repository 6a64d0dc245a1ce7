import HeaderSurvey.Proofs.Declaration.Nesting
import HeaderSurvey.Proofs.Declaration.TypeName

/-!
# The last place of each name

Of types with one name the last is kept.  This module says which places of a list that means: those
behind which the name does not come again (`lastPlaces`).  What is kept are the types at these
places, in order (`keepLast_eq_map_lastPlaces`).

The same types are found by one pass from the end of the list to its start that leaves out every
name it has met before (`keepLast_eq_reverse_keepUnseen`).

`keepLast_spec` collects what follows: every name of the list is kept once, with the last type that
has it, keeping twice is keeping once, and a list can be taken in two pieces.
-/

namespace HeaderSurvey

/-! ### Places -/

/-- Behind the place no type has the name of the type there. -/
def IsLastPlace (types : List TypeDecl) (i : Fin types.length) : Prop :=
  ∀ j, i < j → (types.get j).name ≠ (types.get i).name

instance (types : List TypeDecl) : DecidablePred (IsLastPlace types) := fun i =>
  inferInstanceAs (Decidable (∀ j, i < j → (types.get j).name ≠ (types.get i).name))

/-- The last places of the names, in order. -/
def lastPlaces (types : List TypeDecl) : List (Fin types.length) :=
  (List.finRange types.length).filter fun i => IsLastPlace types i

theorem isLastPlace_zero {t : TypeDecl} {ts : List TypeDecl} :
    IsLastPlace (t :: ts) ⟨0, Nat.zero_lt_succ _⟩ ↔ ¬ ts.any (·.name = t.name) = true := by
  rw [List.any_eq_true]
  constructor
  · rintro h ⟨u, hu, hname⟩
    obtain ⟨j, rfl⟩ := List.get_of_mem hu
    exact h j.succ (Fin.succ_pos j) (of_decide_eq_true hname)
  · intro h j hj hname
    obtain ⟨k, rfl⟩ := Fin.exists_succ_eq.mpr (Fin.pos_iff_ne_zero.mp hj)
    exact h ⟨ts.get k, List.get_mem ts k, decide_eq_true hname⟩

theorem isLastPlace_succ {t : TypeDecl} {ts : List TypeDecl} (i : Fin ts.length) :
    IsLastPlace (t :: ts) i.succ ↔ IsLastPlace ts i := by
  constructor
  · intro h j hij
    exact h j.succ (Fin.succ_lt_succ_iff.mpr hij)
  · intro h j hij
    obtain ⟨k, rfl⟩ := Fin.exists_succ_eq.mpr (Fin.ne_zero_of_lt hij)
    exact h k (Fin.succ_lt_succ_iff.mp hij)

/-- **What is kept are the types at the last places of their names.** -/
theorem keepLast_eq_map_lastPlaces (types : List TypeDecl) :
    keepLast types = (lastPlaces types).map types.get := by
  induction types with
  | nil => rfl
  | cons t ts ih =>
    -- the places of the tail are one further on in the whole list
    have htail : ((List.finRange ts.length).map Fin.succ).filter
        (fun i => decide (IsLastPlace (t :: ts) i)) = (lastPlaces ts).map Fin.succ := by
      rw [List.filter_map, lastPlaces]
      congr 2
      funext i
      exact decide_eq_decide.mpr (isLastPlace_succ i)
    have hget : ((lastPlaces ts).map Fin.succ).map (t :: ts).get = keepLast ts := by
      rw [ih, List.map_map]
      rfl
    have hrange : List.finRange (t :: ts).length =
        ⟨0, Nat.zero_lt_succ _⟩ :: (List.finRange ts.length).map Fin.succ := List.finRange_succ
    rw [keepLast, lastPlaces, hrange, List.filter_cons]
    by_cases hlater : ts.any (·.name = t.name) = true
    · have hnot : ¬ IsLastPlace (t :: ts) ⟨0, Nat.zero_lt_succ _⟩ :=
        fun h => isLastPlace_zero.mp h hlater
      rw [if_pos hlater, if_neg (by rwa [decide_eq_true_eq]), htail, hget]
    · have hlast := isLastPlace_zero.mpr hlater
      rw [if_neg hlater, if_pos (decide_eq_true hlast), htail, List.map_cons, hget]
      rfl

/-- Behind a type that is kept no other has its name. -/
theorem exists_append_of_mem_keepLast {types : List TypeDecl} {t : TypeDecl}
    (h : t ∈ keepLast types) :
    ∃ front back, types = front ++ t :: back ∧ ∀ u ∈ back, u.name ≠ t.name := by
  rw [keepLast_eq_map_lastPlaces, List.mem_map] at h
  obtain ⟨i, hi, rfl⟩ := h
  have hlast : IsLastPlace types i := by simpa using (List.mem_filter.mp hi).2
  obtain ⟨front, back, hsplit, hback⟩ := exists_append_of_get types i
  refine ⟨front, back, hsplit, fun u hu => ?_⟩
  obtain ⟨j, hij, rfl⟩ := hback u hu
  exact hlast j hij

/-! ### One pass from the end -/

theorem mem_names_iff_any {types : List TypeDecl} {name : String} :
    name ∈ types.map TypeDecl.name ↔ types.any (·.name = name) = true := by
  simp [List.any_eq_true, List.mem_map]

/-- The types whose names have not been met before, neither in the list nor among `seen`. -/
def keepUnseen (seen : List String) : List TypeDecl → List TypeDecl
  | [] => []
  | t :: ts => if t.name ∈ seen then keepUnseen seen ts else t :: keepUnseen (t.name :: seen) ts

/-- The type behind all others stays if nothing has had its name. -/
theorem keepUnseen_append_singleton (seen : List String) (ts : List TypeDecl) (t : TypeDecl) :
    keepUnseen seen (ts ++ [t]) = keepUnseen seen ts ++
      if t.name ∈ seen ∨ t.name ∈ ts.map TypeDecl.name then [] else [t] := by
  induction ts generalizing seen with
  | nil =>
    simp only [List.nil_append, keepUnseen, List.map_nil, List.not_mem_nil, or_false]
  | cons u ts ih =>
    rw [List.cons_append, keepUnseen, keepUnseen]
    by_cases hseen : u.name ∈ seen
    · have hmet : (t.name ∈ seen ∨ t.name ∈ (u :: ts).map TypeDecl.name) ↔
          (t.name ∈ seen ∨ t.name ∈ ts.map TypeDecl.name) := by
        rw [List.map_cons, List.mem_cons]
        constructor
        · rintro (h | h | h)
          · exact Or.inl h
          · exact Or.inl (h ▸ hseen)
          · exact Or.inr h
        · exact Or.imp_right Or.inr
      rw [if_pos hseen, if_pos hseen, ih, if_congr hmet rfl rfl]
    · have hmet : (t.name ∈ seen ∨ t.name ∈ (u :: ts).map TypeDecl.name) ↔
          (t.name ∈ u.name :: seen ∨ t.name ∈ ts.map TypeDecl.name) := by
        rw [List.map_cons, List.mem_cons, List.mem_cons, or_assoc, or_left_comm]
      rw [if_neg hseen, if_neg hseen, ih, if_congr hmet rfl rfl, List.cons_append]

/-- The types that are kept are those that a pass from the end meets under a new name. -/
theorem keepLast_eq_reverse_keepUnseen (types : List TypeDecl) :
    keepLast types = (keepUnseen [] types.reverse).reverse := by
  induction types with
  | nil => rfl
  | cons t ts ih =>
    have hmet : ts.any (·.name = t.name) = true ↔
        t.name ∈ [] ∨ t.name ∈ ts.reverse.map TypeDecl.name := by
      rw [List.map_reverse, List.mem_reverse, mem_names_iff_any]
      simp
    rw [keepLast, ih, List.reverse_cons, keepUnseen_append_singleton, List.reverse_append,
      if_congr hmet rfl rfl]
    split_ifs <;> rfl

/-! ### What is kept -/

theorem mem_names_keepLast (types : List TypeDecl) (name : String) :
    name ∈ (keepLast types).map TypeDecl.name ↔ name ∈ types.map TypeDecl.name := by
  rw [mem_names_iff_any, mem_names_iff_any, any_keepLast]

theorem keepLast_keepLast (types : List TypeDecl) :
    keepLast (keepLast types) = keepLast types := by
  rw [keepLast_eq_pwFilter types, keepLast_eq_pwFilter, List.pwFilter_idem]

/-- **The last type of each name is kept, and nothing else.**  What is kept of a list are the types
at the last places of their names, in order; a pass from the end that leaves out the names it has
met finds the same types.  So they are a part of the list, their names differ and are all the names
of the list, and behind each of them the list has no other type of its name.  Keeping again changes
nothing, and of two lists one behind the other are kept those types of the first whose names the
second does not have, and then those of the second. -/
theorem keepLast_spec (types types' : List TypeDecl) :
    keepLast types = (lastPlaces types).map types.get ∧
    keepLast types = (keepUnseen [] types.reverse).reverse ∧
    (keepLast types).Sublist types ∧
    ((keepLast types).map TypeDecl.name).Nodup ∧
    (∀ name, name ∈ (keepLast types).map TypeDecl.name ↔ name ∈ types.map TypeDecl.name) ∧
    (∀ t ∈ keepLast types, ∃ front back, types = front ++ t :: back ∧
      ∀ u ∈ back, u.name ≠ t.name) ∧
    keepLast (keepLast types) = keepLast types ∧
    keepLast (types ++ types') =
      (keepLast types).filter (fun t => t.name ∉ types'.map TypeDecl.name) ++
        keepLast types' := by
  have hsublist : (keepLast types).Sublist types := by
    rw [keepLast_eq_pwFilter]
    exact List.pwFilter_sublist types
  refine ⟨keepLast_eq_map_lastPlaces types, keepLast_eq_reverse_keepUnseen types, hsublist,
    nodup_names_keepLast types, mem_names_keepLast types,
    fun t ht => exists_append_of_mem_keepLast ht, keepLast_keepLast types, ?_⟩
  have hnew : (fun t : TypeDecl => !types'.any (·.name = t.name)) =
      fun t => decide (t.name ∉ types'.map TypeDecl.name) := by
    funext t
    simp only [mem_names_iff_any, decide_not, Bool.decide_eq_true]
  rw [keepLast_append, hnew]

/-- Of two types with one name the later one is kept, and a name that comes in the second list takes
the type of the first list away. -/
theorem keepLast_spec_repeated :
    let t (name : String) (line : Nat) : TypeDecl :=
      ⟨.classWord, name, [], "a.h", 0, line, ⟨0, 0⟩, ⟨0, 0⟩, ""⟩
    let types := [t "A" 1, t "B" 2, t "A" 3]
    keepLast types = [t "B" 2, t "A" 3] ∧
      (∃ front back, types = front ++ t "B" 2 :: back ∧ ∀ u ∈ back, u.name ≠ "B") ∧
      keepLast (types ++ [t "B" 4]) = [t "A" 3, t "B" 4] := by
  intro t types
  have hkept : keepLast types = [t "B" 2, t "A" 3] := by decide
  obtain ⟨-, -, -, -, -, hback, -, happend⟩ := keepLast_spec types [t "B" 4]
  refine ⟨hkept, hback (t "B" 2) (hkept ▸ List.mem_cons_self ..), ?_⟩
  rw [happend, hkept]
  decide

end HeaderSurvey
