import HeaderSurvey.Declaration.ScopeIndex
import Mathlib.Data.List.Basic

/-!
# The index of scopes is a plain search

The index keeps, for each body, the bodies that are open where it begins.  `ownerOf?_ofTypes` says
that nothing is lost by that: whatever the bodies are, the answer for an offset is the last body in
the order of the index that holds the offset.

A body that is no longer kept as open ends at or before the place where a later one begins, so it
holds no offset for which the later one is looked at (`find?_dropWhile`).
-/

namespace HeaderSurvey

namespace ScopeEntry

variable {e x : ScopeEntry} {es xs : List ScopeEntry}

/-! ### The order of the entries -/

/-- The entries are in the order in which their bodies begin. -/
def Ordered (es : List ScopeEntry) : Prop :=
  es.Pairwise fun a b => a.body.start ≤ b.body.start

theorem start_le_of_precedes (h : x.precedes e = true) : x.body.start ≤ e.body.start := by
  simp only [precedes, Bool.or_eq_true, Bool.and_eq_true, decide_eq_true_eq] at h
  omega

theorem start_le_of_not_precedes (h : ¬ x.precedes e = true) : e.body.start ≤ x.body.start := by
  simp only [precedes, Bool.or_eq_true, Bool.and_eq_true, decide_eq_true_eq] at h
  omega

theorem mem_insert : x ∈ insert e xs ↔ x = e ∨ x ∈ xs := by
  induction xs with
  | nil => simp [insert]
  | cons y ys ih =>
    rw [insert]
    split_ifs
    · rw [List.mem_cons, ih, List.mem_cons]
      tauto
    · rw [List.mem_cons]

theorem ordered_insert (h : Ordered xs) : Ordered (insert e xs) := by
  induction xs with
  | nil => exact List.pairwise_singleton _ _
  | cons y ys ih =>
    obtain ⟨hy, hys⟩ := List.pairwise_cons.mp h
    rw [insert]
    split_ifs with hp
    · refine List.pairwise_cons.mpr ⟨?_, ih hys⟩
      intro z hz
      rcases mem_insert.mp hz with rfl | hz
      · exact start_le_of_precedes hp
      · exact hy z hz
    · have hle := start_le_of_not_precedes hp
      refine List.pairwise_cons.mpr ⟨?_, h⟩
      intro z hz
      rcases List.mem_cons.mp hz with rfl | hz
      · exact hle
      · exact Nat.le_trans hle (hy z hz)

theorem ordered_sort (es : List ScopeEntry) : Ordered (sort es) := by
  induction es with
  | nil => exact List.Pairwise.nil
  | cons e es ih => exact ordered_insert ih

/-- Entries of which each begins behind the ones before it stay as they are. -/
theorem sort_eq_self (h : es.Pairwise fun a b => a.body.start < b.body.start) : sort es = es := by
  induction es with
  | nil => rfl
  | cons e es ih =>
    obtain ⟨he, hes⟩ := List.pairwise_cons.mp h
    rw [sort, ih hes]
    cases es with
    | nil => rfl
    | cons x xs =>
      have hlt := he x (List.mem_cons_self ..)
      have hnot : ¬ x.precedes e = true := by
        intro hp
        have := start_le_of_precedes hp
        omega
      rw [insert, if_neg hnot]

/-! ### The last entry that holds an offset -/

/-- The last of the entries whose body holds the offset. -/
def last? (es : List ScopeEntry) (offset : Nat) : Option ScopeEntry :=
  es.reverse.find? (·.body.contains offset)

theorem last?_append (es xs : List ScopeEntry) (offset : Nat) :
    last? (es ++ xs) offset = (last? xs offset).or (last? es offset) := by
  rw [last?, List.reverse_append, List.find?_append, last?, last?]

theorem last?_singleton (e : ScopeEntry) (offset : Nat) :
    last? [e] offset = if e.body.contains offset then some e else none := by
  rw [last?, List.reverse_singleton, List.find?_singleton]

theorem last?_eq_none {offset : Nat} (h : ∀ e ∈ es, e.body.contains offset = false) :
    last? es offset = none := by
  rw [last?, List.find?_eq_none]
  intro e he
  rw [List.mem_reverse] at he
  simp [h e he]

/-- The entries that end at or before some place hold no later offset. -/
theorem find?_dropWhile {place offset : Nat} (h : place ≤ offset) :
    (es.dropWhile (·.body.stop ≤ place)).find? (offset < ·.body.stop) =
      es.find? (offset < ·.body.stop) := by
  induction es with
  | nil => rfl
  | cons e es ih =>
    rw [List.dropWhile_cons]
    split_ifs with he
    · rw [decide_eq_true_eq] at he
      have hnot : ¬ offset < e.body.stop := by omega
      rw [ih, List.find?_cons_of_neg (by simpa using hnot)]
    · rfl

end ScopeEntry

namespace ScopeIndex

open ScopeEntry

theorem ownerOf?_cons (e : ScopeEntry) (opened : List ScopeEntry) (index : ScopeIndex)
    (offset : Nat) :
    ownerOf? ((e, opened) :: index) offset =
      if e.body.start ≤ offset then (opened.find? (offset < ·.body.stop)).map (·.owner)
      else index.ownerOf? offset := by
  rw [ownerOf?, ownerOf?, List.find?_cons]
  by_cases h : e.body.start ≤ offset
  · simp [h]
  · simp [h]

/-- What is built answers like a search through all entries, if this holds of what there was. -/
theorem ownerOf?_build {done es : List ScopeEntry} {index : ScopeIndex} {opened : List ScopeEntry}
    (hordered : Ordered (done ++ es))
    (hopened : ∀ offset, (∀ e ∈ done, e.body.start ≤ offset) →
      opened.find? (offset < ·.body.stop) = last? done offset)
    (hindex : ∀ offset, index.ownerOf? offset = (last? done offset).map (·.owner)) (offset : Nat) :
    (build index opened es).ownerOf? offset = (last? (done ++ es) offset).map (·.owner) := by
  induction es generalizing done index opened with
  | nil =>
    rw [build, hindex, List.append_nil]
  | cons e es ih =>
    have hbefore : ∀ x ∈ done, x.body.start ≤ e.body.start := by
      intro x hx
      exact (List.pairwise_append.mp hordered).2.2 x hx e (List.mem_cons_self ..)
    -- the entries that are open with `e` answer for every offset from its start on
    have hopened' : ∀ offset, e.body.start ≤ offset →
        (e :: opened.dropWhile (·.body.stop ≤ e.body.start)).find? (offset < ·.body.stop) =
          last? (done ++ [e]) offset := by
      intro offset hle
      have hdone := hopened offset fun x hx => Nat.le_trans (hbefore x hx) hle
      rw [List.find?_cons, find?_dropWhile hle, hdone, last?_append, last?_singleton, Span.contains]
      by_cases hlt : offset < e.body.stop
      · simp [hle, hlt]
      · simp [hlt]
    have hsplit : done ++ e :: es = (done ++ [e]) ++ es := by simp
    rw [hsplit] at hordered ⊢
    rw [build]
    -- behind the start of `e` the new entry answers, in front of it the index that there was
    refine ih hordered ?_ ?_
    · intro offset hall
      exact hopened' offset (hall e (by simp))
    · intro offset
      rw [ownerOf?_cons]
      split_ifs with hle
      · rw [hopened' offset hle]
      · rw [hindex, last?_append, last?_singleton, Span.contains]
        simp [hle]

/-- The bodies of the types, with their names. -/
def entries (types : List TypeDecl) : List ScopeEntry :=
  types.map fun t => ⟨t.bodySpan, t.name⟩

theorem entries_append (types types' : List TypeDecl) :
    entries (types ++ types') = entries types ++ entries types' :=
  List.map_append

/-- **The index answers with the last body that holds the offset**, in the order in which the bodies
begin, a longer one before a shorter one, and otherwise as they came. -/
theorem ownerOf?_ofTypes (types : List TypeDecl) (offset : Nat) :
    (ofTypes types).ownerOf? offset =
      (last? (ScopeEntry.sort (entries types)) offset).map (·.owner) := by
  rw [ofTypes, entries]
  refine @ownerOf?_build [] _ [] [] (ordered_sort _) ?_ ?_ offset
  · intro offset _
    rfl
  · intro offset
    rfl

end ScopeIndex
end HeaderSurvey
