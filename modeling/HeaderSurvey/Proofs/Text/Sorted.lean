import HeaderSurvey.Proofs.Text.Bytes
import HeaderSurvey.Text.Sorted
import Mathlib.Data.List.Lex
import Mathlib.Data.List.Perm.Basic
import Mathlib.Data.String.Basic

/-!
# Sorted lists of strings

`Text.sortOnce` keeps the members of a list (`mem_sortOnce`) and puts them into strictly increasing
order (`pairwise_sortOnce`).  These two facts determine its result, which therefore depends on the
members alone, on neither their order nor their number (`sortOnce_congr`).

Strings are compared character by character.  Their bytes are in the same order, because the
encoding of a greater character is greater at the first byte at which the two encodings differ
(`bytes_lt_bytes`), and so sorting is by bytes as well (`pairwise_bytes_sortOnce`).
-/

namespace HeaderSurvey.Text

/-! ### Members and order -/

theorem mem_insertOnce {x s : String} {xs : List String} :
    x ∈ insertOnce s xs ↔ x = s ∨ x ∈ xs := by
  induction xs with
  | nil => simp [insertOnce]
  | cons y ys ih =>
    rw [insertOnce]
    split_ifs with hlt heq
    · rw [List.mem_cons, ih, List.mem_cons]
      tauto
    · rw [← heq, List.mem_cons]
      tauto
    · rw [List.mem_cons]

theorem mem_sortOnce {x : String} {xs : List String} : x ∈ sortOnce xs ↔ x ∈ xs := by
  induction xs with
  | nil => simp [sortOnce]
  | cons s ss ih => rw [sortOnce, mem_insertOnce, ih, List.mem_cons]

theorem pairwise_insertOnce {s : String} {xs : List String} (h : xs.Pairwise (· < ·)) :
    (insertOnce s xs).Pairwise (· < ·) := by
  induction xs with
  | nil => simp [insertOnce]
  | cons y ys ih =>
    obtain ⟨hy, hys⟩ := List.pairwise_cons.mp h
    rw [insertOnce]
    split_ifs with hlt heq
    · refine List.pairwise_cons.mpr ⟨?_, ih hys⟩
      intro z hz
      rcases mem_insertOnce.mp hz with rfl | hz
      · exact hlt
      · exact hy z hz
    · exact h
    · -- the new string is less than the first one, and by that than all others
      have hs : s < y := lt_of_le_of_ne (not_lt.mp hlt) (Ne.symm heq)
      refine List.pairwise_cons.mpr ⟨?_, h⟩
      intro z hz
      rcases List.mem_cons.mp hz with rfl | hz
      · exact hs
      · exact hs.trans (hy z hz)

/-- The sorted strings are in strictly increasing order, so that none of them is repeated. -/
theorem pairwise_sortOnce (xs : List String) : (sortOnce xs).Pairwise (· < ·) := by
  induction xs with
  | nil => exact List.Pairwise.nil
  | cons s ss ih => exact pairwise_insertOnce ih

/-- Sorting depends on the members of the list alone. -/
theorem sortOnce_congr {xs ys : List String} (h : ∀ x, x ∈ xs ↔ x ∈ ys) :
    sortOnce xs = sortOnce ys := by
  have hxs := pairwise_sortOnce xs
  have hys := pairwise_sortOnce ys
  have hperm : (sortOnce xs).Perm (sortOnce ys) := by
    refine (List.perm_ext_iff_of_nodup (hxs.imp ne_of_lt) (hys.imp ne_of_lt)).mpr ?_
    intro x
    rw [mem_sortOnce, mem_sortOnce, h x]
  exact hperm.eq_of_pairwise (fun _ _ _ _ hlt hgt => absurd hgt hlt.asymm) hxs hys

/-! ### The order of the bytes -/

/-- The encodings of two characters differ as the characters do, whatever follows them. -/
theorem utf8EncodeChar_append_lt {c d : Char} (h : c < d) (s t : List UInt8) :
    String.utf8EncodeChar c ++ s < String.utf8EncodeChar d ++ t := by
  have hlt : c.val.toNat < d.val.toNat := h
  have hd : d.val.toNat < 0x110000 := by
    rcases d.valid with h1 | ⟨-, h2⟩
    · have h1' : d.val.toNat < 0xd800 := h1
      omega
    · exact h2
  unfold String.utf8EncodeChar
  generalize c.val.toNat = m at hlt
  generalize d.val.toNat = n at hlt hd
  -- the digits of a code point to the base 64, each from the quotient of the one behind it
  have hm : m / 0x1000 = m / 0x40 / 0x40 ∧ m / 0x40000 = m / 0x40 / 0x40 / 0x40 := by omega
  have hn : n / 0x1000 = n / 0x40 / 0x40 ∧ n / 0x40000 = n / 0x40 / 0x40 / 0x40 := by omega
  dsimp only
  split_ifs
  all_goals
    simp only [List.cons_append, List.cons_lt_cons_iff, UInt8.lt_iff_toNat_lt, ← UInt8.toNat_inj,
      UInt8.toNat_ofNat']
    simp (disch := omega) only [Nat.mod_eq_of_lt]
    omega

/-- **The order of strings is that of their bytes.** -/
theorem bytes_lt_bytes {s t : List Char} (h : s < t) : bytes s < bytes t := by
  induction s generalizing t with
  | nil =>
    cases t with
    | nil => exact absurd h (lt_irrefl _)
    | cons d t =>
      have hpos : 0 < (String.utf8EncodeChar d).length := by
        rw [String.length_utf8EncodeChar]
        exact Char.utf8Size_pos d
      rw [bytes_cons, bytes_nil]
      cases hd : String.utf8EncodeChar d with
      | nil => simp [hd] at hpos
      | cons b bs => exact List.nil_lt_cons b (bs ++ bytes t)
  | cons c s ih =>
    cases t with
    | nil => exact absurd h (List.not_lt_nil _)
    | cons d t =>
      rw [bytes_cons, bytes_cons]
      rcases List.cons_lt_cons_iff.mp h with hlt | ⟨rfl, hlt⟩
      · exact utf8EncodeChar_append_lt hlt _ _
      · exact List.append_left_lt (ih hlt)

/-- The bytes of the sorted strings are in strictly increasing order. -/
theorem pairwise_bytes_sortOnce (xs : List String) :
    (sortOnce xs).Pairwise fun s t => bytes s.toList < bytes t.toList :=
  (pairwise_sortOnce xs).imp fun h => bytes_lt_bytes (String.lt_iff_toList_lt.mp h)

end HeaderSurvey.Text
