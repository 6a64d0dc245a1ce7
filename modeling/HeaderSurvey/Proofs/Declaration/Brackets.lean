import HeaderSurvey.Declaration.Types
import Mathlib.Data.List.Infix

/-!
# Brackets

Angle brackets and parentheses are counted by one counter (`bracketDepth`).  In a `BracketsMatch` text it
never falls below zero and is zero in the end; a text is `Closed` if all its commas stand inside
brackets besides.  A list whose bases are closed is split at the commas between them and at no other
(`Closed.splitBases_append_comma`).
-/

namespace HeaderSurvey

/-- How a character changes the number of open brackets. -/
def bracketStep (c : Char) : Int :=
  if c = '<' ∨ c = '(' then 1 else if c = '>' ∨ c = ')' then -1 else 0

/-- How many brackets the text opens more than it closes. -/
def bracketDepth : List Char → Int
  | [] => 0
  | c :: cs => bracketStep c + bracketDepth cs

/-- Nowhere are more brackets closed than opened, and in the end none is open. -/
structure BracketsMatch (s : List Char) : Prop where
  nonneg : ∀ t, t <+: s → 0 ≤ bracketDepth t
  eq_zero : bracketDepth s = 0

/-- The brackets match, and every comma stands inside some. -/
structure Closed (s : List Char) : Prop where
  brackets : BracketsMatch s
  comma : ∀ t, t ++ [','] <+: s → 0 < bracketDepth t

theorem bracketDepth_append (s t : List Char) :
    bracketDepth (s ++ t) = bracketDepth s + bracketDepth t := by
  induction s with
  | nil => rw [List.nil_append, bracketDepth, Int.zero_add]
  | cons c s ih => rw [List.cons_append, bracketDepth, bracketDepth, ih, Int.add_assoc]

/-- A beginning of `s ++ t` is one of `s`, or `s` and a beginning of `t`. -/
theorem prefix_or_of_prefix_append {u s t : List Char} (h : u <+: s ++ t) :
    u <+: s ∨ ∃ v, u = s ++ v ∧ v <+: t := by
  obtain ⟨w, hw⟩ := h
  rcases List.append_eq_append_iff.mp hw with ⟨v, rfl, -⟩ | ⟨v, rfl, rfl⟩
  · exact Or.inl (List.prefix_append u v)
  · exact Or.inr ⟨v, rfl, List.prefix_append v w⟩

theorem BracketsMatch.append {s t : List Char} (hs : BracketsMatch s) (ht : BracketsMatch t) :
    BracketsMatch (s ++ t) := by
  constructor
  · intro u hu
    rcases prefix_or_of_prefix_append hu with hu | ⟨v, rfl, hv⟩
    · exact hs.nonneg u hu
    · rw [bracketDepth_append, hs.eq_zero, Int.zero_add]
      exact ht.nonneg v hv
  · rw [bracketDepth_append, hs.eq_zero, ht.eq_zero, Int.add_zero]

theorem Closed.append {s t : List Char} (hs : Closed s) (ht : Closed t) : Closed (s ++ t) := by
  refine ⟨hs.brackets.append ht.brackets, fun u hu => ?_⟩
  rcases prefix_or_of_prefix_append hu with hu | ⟨v, huv, hv⟩
  · exact hs.comma u hu
  · -- the comma is the last character of `s`, or it stands in `t`
    rcases List.eq_nil_or_concat v with rfl | ⟨v, x, rfl⟩
    · rw [List.append_nil] at huv
      exact hs.comma u (huv ▸ List.prefix_refl s)
    · rw [List.concat_eq_append, ← List.append_assoc] at huv
      obtain ⟨rfl, hx⟩ := List.append_inj' huv rfl
      rw [List.concat_eq_append, ← hx] at hv
      rw [bracketDepth_append, hs.brackets.eq_zero, Int.zero_add]
      exact ht.comma v hv

/-- A text without commas and brackets is closed. -/
theorem closed_of_forall {s : List Char} (h : ∀ x ∈ s, bracketStep x = 0 ∧ x ≠ ',') : Closed s := by
  have hzero : ∀ t, t <+: s → bracketDepth t = 0 := by
    intro t ht
    have hall : ∀ x ∈ t, bracketStep x = 0 := fun x hx => (h x (ht.subset hx)).1
    clear ht
    induction t with
    | nil => rfl
    | cons c t ih =>
      obtain ⟨hc, ht⟩ := List.forall_mem_cons.mp hall
      rw [bracketDepth, hc, ih ht, Int.add_zero]
  refine ⟨⟨fun t ht => Int.le_of_eq (hzero t ht).symm, hzero s (List.prefix_refl s)⟩, fun t ht => ?_⟩
  exact absurd rfl (h ',' (ht.subset (by simp))).2

/-- Only the beginnings of the text matter. -/
theorem closed_iff {s : List Char} :
    Closed s ↔ bracketDepth s = 0 ∧ ∀ t ∈ s.inits, 0 ≤ bracketDepth t ∧
      (t.getLast? = some ',' → 0 < bracketDepth t) := by
  have hcomma : ∀ t, bracketDepth (t ++ [',']) = bracketDepth t := by
    intro t
    rw [bracketDepth_append]
    exact Int.add_zero _
  constructor
  · intro h
    refine ⟨h.brackets.eq_zero, fun t ht => ?_⟩
    have hprefix := List.mem_inits t s |>.mp ht
    refine ⟨h.brackets.nonneg t hprefix, fun hlast => ?_⟩
    obtain ⟨t, rfl⟩ := List.getLast?_eq_some_iff.mp hlast
    rw [hcomma]
    exact h.comma t hprefix
  · rintro ⟨hzero, hinits⟩
    refine ⟨⟨fun t ht => (hinits t (List.mem_inits t s |>.mpr ht)).1, hzero⟩, fun t ht => ?_⟩
    rw [← hcomma]
    exact (hinits _ (List.mem_inits _ s |>.mpr ht)).2 List.getLast?_concat

instance (s : List Char) : Decidable (Closed s) :=
  decidable_of_iff' _ closed_iff

/-! ### Splitting -/

theorem splitBases_ne_nil (depth : Nat) (s : List Char) : splitBases depth s ≠ [] := by
  cases s with
  | nil => exact List.cons_ne_nil [] []
  | cons c s =>
    by_cases hcomma : c = ',' ∧ depth = 0
    · rw [splitBases, if_pos hcomma]
      exact List.cons_ne_nil [] _
    · rw [splitBases, if_neg hcomma]
      dsimp only
      split
      · exact List.cons_ne_nil [c] []
      · exact List.cons_ne_nil _ _

/-- What stands in front of the rest of a list, if no comma of it ends a piece: it belongs to the
first piece. -/
theorem splitBases_append {depth depth' : Nat} {s rest piece : List Char}
    {pieces : List (List Char)} (hnonneg : ∀ t, t <+: s → 0 ≤ depth + bracketDepth t)
    (hcomma : ∀ t, t ++ [','] <+: s → 0 < depth + bracketDepth t)
    (hdepth : (depth' : Int) = depth + bracketDepth s)
    (hrest : splitBases depth' rest = piece :: pieces) :
    splitBases depth (s ++ rest) = (s ++ piece) :: pieces := by
  induction s generalizing depth with
  | nil =>
    rw [bracketDepth, Int.add_zero, Int.ofNat_inj] at hdepth
    rw [← hdepth]
    exact hrest
  | cons c s ih =>
    have hno : ¬ (c = ',' ∧ depth = 0) := by
      rintro ⟨rfl, rfl⟩
      have hpos := hcomma [] (List.prefix_append [','] s)
      simp [bracketDepth] at hpos
    rw [List.cons_append, splitBases, if_neg hno]
    dsimp only
    -- the counter of the code is a natural number, which does not matter as it never falls below
    have hstep := hnonneg [c] (List.prefix_append [c] s)
    rw [bracketDepth, bracketDepth, Int.add_zero, bracketStep] at hstep
    generalize hnext : (if c = '<' ∨ c = '(' then depth + 1
      else if c = '>' ∨ c = ')' then depth - 1 else depth) = next
    have heq : (next : Int) = depth + bracketStep c := by
      rw [← hnext, bracketStep]
      split_ifs at hstep ⊢ <;> omega
    have hcut : ∀ t, (next : Int) + bracketDepth t = depth + bracketDepth (c :: t) := by
      intro t
      rw [heq, bracketDepth, Int.add_assoc]
    have htail : splitBases next (s ++ rest) = (s ++ piece) :: pieces := by
      apply ih
      · intro t ht
        rw [hcut t]
        exact hnonneg (c :: t) (List.prefix_cons_inj c |>.mpr ht)
      · intro t ht
        rw [hcut t]
        exact hcomma (c :: t) (List.prefix_cons_inj c |>.mpr ht)
      · rw [hcut s]
        exact hdepth
    rw [htail]
    rfl

namespace Closed

variable {s : List Char}

theorem splitBases_append_of_eq (hs : Closed s) {rest piece : List Char}
    {pieces : List (List Char)} (hrest : splitBases 0 rest = piece :: pieces) :
    splitBases 0 (s ++ rest) = (s ++ piece) :: pieces := by
  refine splitBases_append (fun t ht => ?_) (fun t ht => ?_) ?_ hrest
  · simpa using hs.brackets.nonneg t ht
  · simpa using hs.comma t ht
  · simpa using hs.brackets.eq_zero.symm

/-- A closed text is one piece. -/
theorem splitBases_eq (hs : Closed s) : splitBases 0 s = [s] := by
  have hnil : splitBases 0 [] = [[]] := rfl
  simpa using hs.splitBases_append_of_eq hnil

/-- A comma behind a closed text ends the piece. -/
theorem splitBases_append_comma (hs : Closed s) (rest : List Char) :
    splitBases 0 (s ++ ',' :: rest) = s :: splitBases 0 rest := by
  have hcomma : splitBases 0 (',' :: rest) = [] :: splitBases 0 rest := rfl
  simpa using hs.splitBases_append_of_eq hcomma

end Closed
end HeaderSurvey
