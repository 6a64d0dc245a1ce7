import HeaderSurvey.Text.Lowercase
import Mathlib.Tactic.SplitIfs

/-!
# What lower case adds

Lower-casing puts letters in the place of letters.  A text of ASCII is lower-cased letter by letter
(`lowercaseFrom_of_ascii`).  In any text lower-casing adds nothing of ASCII but the letters `a` to
`z`: whatever else of ASCII stands in the lower case of a text stands in the text itself
(`mem_of_mem_lowercase`).
-/

namespace HeaderSurvey

/-- What holds of the first 128 characters holds of all of ASCII. -/
theorem forall_ascii {P : Char → Prop} (h : ∀ n < 128, P (Char.ofNat n)) {x : Char}
    (hx : x.val < 128) : P x := by
  have hlt : x.toNat < 128 := by
    have := UInt32.lt_iff_toNat_lt.mp hx
    exact this
  have hofNat := h x.toNat hlt
  rwa [Char.ofNat_toNat] at hofNat

/-! ### The table -/

namespace Unicode

/-- The run gives no character of ASCII but the letters `a` to `z`, and no surrogate. -/
def CaseRun.IsPlain (r : CaseRun) : Prop :=
  (128 ≤ r.lower ∨ 97 ≤ r.lower ∧ r.lower + (r.last - r.first) ≤ 122) ∧
    (r.lower + (r.last - r.first) < 0xD800 ∨
      0xE000 ≤ r.lower ∧ r.lower + (r.last - r.first) < 0x110000)

instance (r : CaseRun) : Decidable r.IsPlain :=
  inferInstanceAs (Decidable (_ ∧ _))

/-- A form in the table is one of those that some run gives. -/
theorem exists_run_of_lowerOf? {c n : Nat} {runs : List CaseRun} (h : lowerOf? c runs = some n) :
    ∃ r ∈ runs, r.lower ≤ n ∧ n ≤ r.lower + (r.last - r.first) := by
  induction runs with
  | nil => simp [lowerOf?] at h
  | cons r rs ih =>
    rw [lowerOf?] at h
    split_ifs at h with hfirst hin
    · obtain rfl := Option.some.inj h
      exact ⟨r, List.mem_cons_self .., by omega, by omega⟩
    · obtain ⟨s, hs, hle⟩ := ih h
      exact ⟨s, List.mem_cons_of_mem r hs, hle⟩

/-- A lower-case form from the table is outside ASCII or a letter of it. -/
theorem isLower_of_lowerOf? {c n : Nat} (h : lowerOf? c caseRuns = some n)
    (hascii : (Char.ofNat n).val < 128) : (Char.ofNat n).isLower = true := by
  have hplain : ∀ r ∈ caseRuns, r.IsPlain := by decide +kernel
  obtain ⟨r, hr, hge, hle⟩ := exists_run_of_lowerOf? h
  obtain ⟨hrange, hvalid⟩ := hplain r hr
  have hchar : n.isValidChar := by
    rw [Nat.isValidChar]
    omega
  have htoNat : (Char.ofNat n).val.toNat = n := by
    rw [Char.ofNat, dif_pos hchar]
    rfl
  have hlt : (Char.ofNat n).val.toNat < 128 := UInt32.lt_iff_toNat_lt.mp hascii
  have ha : 'a'.val.toNat = 97 := rfl
  have hz : 'z'.val.toNat = 122 := rfl
  have hbounds : 'a'.val ≤ (Char.ofNat n).val ∧ (Char.ofNat n).val ≤ 'z'.val := by
    rw [UInt32.le_iff_toNat_le, UInt32.le_iff_toNat_le, htoNat]
    omega
  exact Bool.and_eq_true_iff.mpr ⟨decide_eq_true hbounds.1, decide_eq_true hbounds.2⟩

end Unicode

/-! ### Texts -/

namespace Text

theorem lowercaseFrom_of_ascii {s : List Char} (h : ∀ x ∈ s, x.val < 128)
    (before : List Char) : lowercaseFrom before s = s.map Char.toLower := by
  induction s generalizing before with
  | nil => rfl
  | cons x s ih =>
    obtain ⟨hx, hs⟩ := List.forall_mem_cons.mp h
    have hsigma : x ≠ 'Σ' := by
      rintro rfl
      exact absurd hx (by decide)
    rw [lowercaseFrom, if_neg hsigma, lowerChar, if_pos hx, ih hs]
    rfl

theorem mem_of_mem_lowerChar {x c : Char} (hascii : x.val < 128) (hx : x.isLower = false)
    (h : x ∈ lowerChar c) : x = c := by
  rw [lowerChar] at h
  split_ifs at h with hc hdot
  · rw [List.mem_singleton] at h
    subst h
    have hall : ∀ n < 128, (Char.ofNat n).toLower.isLower = false →
        (Char.ofNat n).toLower = Char.ofNat n := by decide
    exact @forall_ascii (fun c => c.toLower.isLower = false → c.toLower = c) hall c hc hx
  · rw [List.mem_cons, List.mem_singleton] at h
    rcases h with rfl | rfl
    · exact absurd hx (by decide)
    · exact absurd hascii (by decide)
  · rw [List.mem_singleton] at h
    rcases hlower : Unicode.lowerOf? c.toNat Unicode.caseRuns with _ | n
    · rw [h, hlower]
      rfl
    · rw [hlower, Option.map_some, Option.getD_some] at h
      subst h
      rw [Unicode.isLower_of_lowerOf? hlower hascii] at hx
      exact absurd hx (by decide)

theorem mem_of_mem_lowercaseFrom {x : Char} (hascii : x.val < 128) (hx : x.isLower = false)
    {s : List Char} : ∀ {before : List Char}, x ∈ lowercaseFrom before s → x ∈ s := by
  induction s with
  | nil =>
    intro before h
    exact h
  | cons c s ih =>
    intro before h
    rw [lowercaseFrom, List.mem_append] at h
    rcases h with h | h
    · split_ifs at h with hsigma
      · -- both small sigmas are outside ASCII
        rw [List.mem_singleton] at h
        subst h
        exfalso
        rw [lowerSigma] at hascii
        split_ifs at hascii
        · exact absurd hascii (by decide)
        · exact absurd hascii (by decide)
      · exact List.mem_cons.mpr (Or.inl (mem_of_mem_lowerChar hascii hx h))
    · exact List.mem_cons_of_mem c (ih h)

/-- A character of ASCII in the lower case of a text stands in the text, unless it is one of the
letters `a` to `z`. -/
theorem mem_of_mem_lowercase {x : Char} (hascii : x.val < 128) (hx : x.isLower = false)
    {s : List Char} (h : x ∈ lowercase s) : x ∈ s :=
  mem_of_mem_lowercaseFrom hascii hx h

end Text
end HeaderSurvey
