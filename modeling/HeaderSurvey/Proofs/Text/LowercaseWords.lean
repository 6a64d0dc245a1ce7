import HeaderSurvey.CharClass
import HeaderSurvey.Proofs.Text.Lowercase

/-!
# Words in lower case

Lower-casing keeps words: what it puts in the place of a word character is made of word characters
(`Text.isWordChar_of_mem_lowercaseFrom`).

A text becomes a given word of ASCII in lower case exactly if its letters are those of the word,
small or capital (`Text.lowercase_eq_iff`).  The only letter outside ASCII that has a small letter
of ASCII is the Kelvin sign.
-/

namespace HeaderSurvey

/-! ### The table -/

namespace Unicode

/-- Whether one of the ranges holds everything from `a` to `b`. -/
def covers (a b : Nat) : List Range → Bool
  | [] => false
  | (first, last) :: ranges =>
    if a < first then false else if a ≤ last then b ≤ last else covers a b ranges

theorem inRanges_of_covers {a b n : Nat} {ranges : List Range} (h : covers a b ranges = true)
    (ha : a ≤ n) (hb : n ≤ b) : inRanges n ranges = true := by
  induction ranges with
  | nil => exact absurd h (by simp [covers])
  | cons range ranges ih =>
    obtain ⟨first, last⟩ := range
    rw [covers] at h
    rw [inRanges]
    split_ifs at h with hfirst hlast
    · have hle : n ≤ last := Nat.le_trans hb (of_decide_eq_true h)
      rw [if_neg (by omega), if_pos hle]
    · -- the place lies behind this range, perhaps with `b` in a later one
      rw [if_neg (by omega), if_neg (by omega)]
      exact ih h

/-- The run gives letters, and none that came last into the standard but for one that did. -/
def CaseRun.KeepsWords (r : CaseRun) : Prop :=
  covers r.lower (r.lower + (r.last - r.first)) alphabetic = true ∧
    ∀ k ≤ r.last - r.first, k % r.step = 0 → inRanges (r.lower + k) recent = true →
      inRanges (r.first + k) recent = true

instance (r : CaseRun) : Decidable r.KeepsWords :=
  inferInstanceAs (Decidable (_ ∧ _))

/-- The run gives letters outside ASCII, or it is that of the Kelvin sign. -/
def CaseRun.IsKelvinOrForeign (r : CaseRun) : Prop :=
  128 ≤ r.lower ∨ r.first = 0x212A ∧ r.last = 0x212A ∧ r.lower = 0x6B

instance (r : CaseRun) : Decidable r.IsKelvinOrForeign :=
  inferInstanceAs (Decidable (_ ∨ _))

variable {c n : Nat}

/-- A form in the table stands where the letter stands in its run. -/
theorem exists_step_of_lowerOf? {runs : List CaseRun} (h : lowerOf? c runs = some n) :
    ∃ r ∈ runs, ∃ k ≤ r.last - r.first, k % r.step = 0 ∧ c = r.first + k ∧ n = r.lower + k := by
  induction runs with
  | nil => simp [lowerOf?] at h
  | cons r rs ih =>
    rw [lowerOf?] at h
    split_ifs at h with hfirst hin
    · obtain rfl := Option.some.inj h
      exact ⟨r, List.mem_cons_self .., c - r.first, by omega, hin.2, by omega, rfl⟩
    · obtain ⟨s, hs, hstep⟩ := ih h
      exact ⟨s, List.mem_cons_of_mem r hs, hstep⟩

/-- Only the Kelvin sign has a form of ASCII in the table. -/
theorem eq_kelvin_of_lowerOf? (h : lowerOf? c caseRuns = some n) (hn : n < 128) :
    c = 0x212A ∧ n = 0x6B := by
  have hruns : ∀ r ∈ caseRuns, r.IsKelvinOrForeign := by decide +kernel
  obtain ⟨r, hr, k, hk, -, rfl, rfl⟩ := exists_step_of_lowerOf? h
  rcases hruns r hr with hforeign | ⟨hfirst, hlast, hlower⟩ <;> omega

theorem toNat_ofNat_of_lowerOf? (h : lowerOf? c caseRuns = some n) :
    (Char.ofNat n).toNat = n := by
  have hplain : ∀ r ∈ caseRuns, r.IsPlain := by decide +kernel
  obtain ⟨r, hr, k, hk, -, rfl, rfl⟩ := exists_step_of_lowerOf? h
  obtain ⟨-, hvalid⟩ := hplain r hr
  have hchar : (r.lower + k).isValidChar := by
    rw [Nat.isValidChar]
    omega
  rw [Char.ofNat, dif_pos hchar]
  rfl

/-- The lower-case form of a word character is a word character. -/
theorem isWordChar_of_lowerOf? {x : Char} (h : lowerOf? x.toNat caseRuns = some n)
    (hascii : ¬ x.val < 128) (hx : isWordChar x = true) : isWordChar (Char.ofNat n) = true := by
  have hruns : ∀ r ∈ caseRuns, r.KeepsWords := by decide +kernel
  have htoNat := toNat_ofNat_of_lowerOf? h
  by_cases hn : n < 128
  · obtain ⟨-, rfl⟩ := eq_kelvin_of_lowerOf? h hn
    decide
  · have hforeign : ¬ (Char.ofNat n).val < 128 := by
      rw [UInt32.lt_iff_toNat_lt]
      change ¬ (Char.ofNat n).toNat < 128
      rwa [htoNat]
    obtain ⟨r, hr, k, hk, hstep, hplace, rfl⟩ := exists_step_of_lowerOf? h
    obtain ⟨hletters, hrecent⟩ := hruns r hr
    rw [isWordChar, if_neg hascii, hplace, Bool.and_eq_true, Bool.not_eq_true'] at hx
    have hletter : inRanges (r.lower + k) alphabetic = true :=
      inRanges_of_covers hletters (by omega) (by omega)
    have hknown : inRanges (r.lower + k) recent = false := by
      rw [← Bool.not_eq_true]
      intro hnew
      rw [hrecent k hk hstep hnew] at hx
      exact absurd hx.2 (by decide)
    rw [isWordChar, if_neg hforeign, htoNat, hletter, hknown]
    rfl

end Unicode

/-! ### Word characters -/

namespace Text

/-- What the lower case of a character is: that of ASCII, the two characters of the capital I with a
dot, the character itself, or its form in the table. -/
theorem lowerChar_cases (c : Char) :
    (c.val < 128 ∧ lowerChar c = [c.toLower]) ∨
    (c = '\u0130' ∧ lowerChar c = ['i', '\u0307']) ∨
    (¬ c.val < 128 ∧ Unicode.lowerOf? c.toNat Unicode.caseRuns = none ∧ lowerChar c = [c]) ∨
    (¬ c.val < 128 ∧ ∃ n, Unicode.lowerOf? c.toNat Unicode.caseRuns = some n ∧
      lowerChar c = [Char.ofNat n]) := by
  rw [lowerChar]
  split_ifs with hascii hdot
  · exact Or.inl ⟨hascii, rfl⟩
  · exact Or.inr (Or.inl ⟨hdot, rfl⟩)
  · cases hform : Unicode.lowerOf? c.toNat Unicode.caseRuns with
    | none => exact Or.inr (Or.inr (Or.inl ⟨hascii, rfl, rfl⟩))
    | some n => exact Or.inr (Or.inr (Or.inr ⟨hascii, n, rfl, rfl⟩))

theorem isWordChar_toLower {c : Char} (hascii : c.val < 128) (hc : isWordChar c = true) :
    isWordChar c.toLower = true := by
  have hall : ∀ n < 128, isWordChar (Char.ofNat n) = true →
      isWordChar (Char.ofNat n).toLower = true := by decide
  exact @forall_ascii (fun c => isWordChar c = true → isWordChar c.toLower = true) hall c hascii hc

theorem isWordChar_of_mem_lowerChar {c x : Char} (hc : isWordChar c = true)
    (hx : x ∈ lowerChar c) : isWordChar x = true := by
  rcases lowerChar_cases c with ⟨hascii, hlower⟩ | ⟨-, hlower⟩ | ⟨-, -, hlower⟩ |
    ⟨hascii, n, hform, hlower⟩ <;> rw [hlower] at hx
  · rw [List.mem_singleton.mp hx]
    exact isWordChar_toLower hascii hc
  · rw [List.mem_cons, List.mem_singleton] at hx
    rcases hx with rfl | rfl <;> decide +kernel
  · rw [List.mem_singleton.mp hx]
    exact hc
  · rw [List.mem_singleton.mp hx]
    exact Unicode.isWordChar_of_lowerOf? hform hascii hc

theorem isWordChar_lowerSigma (before rest : List Char) :
    isWordChar (lowerSigma before rest) = true := by
  rw [lowerSigma]
  split_ifs <;> decide +kernel

/-- **The lower case of word characters is made of word characters.** -/
theorem isWordChar_of_mem_lowercaseFrom {s : List Char} (hs : ∀ x ∈ s, isWordChar x = true) :
    ∀ {before : List Char}, ∀ x ∈ lowercaseFrom before s, isWordChar x = true := by
  induction s with
  | nil =>
    intro before x hx
    exact absurd hx List.not_mem_nil
  | cons c s ih =>
    intro before x hx
    obtain ⟨hc, hrest⟩ := List.forall_mem_cons.mp hs
    rw [lowercaseFrom, List.mem_append] at hx
    rcases hx with hx | hx
    · split_ifs at hx
      · rw [List.mem_singleton.mp hx]
        exact isWordChar_lowerSigma before s
      · exact isWordChar_of_mem_lowerChar hc hx
    · exact ih hrest x hx

end Text

/-! ### Words of ASCII -/

/-- The small letter of ASCII for a capital one and for the Kelvin sign; any other character is left
as it is. -/
def smallLetter (c : Char) : Char :=
  if c = '\u212a' then 'k' else c.toLower

theorem smallLetter_of_ascii {c : Char} (hc : c.val < 128) : smallLetter c = c.toLower := by
  rw [smallLetter, if_neg]
  rintro rfl
  exact absurd hc (by decide)

theorem smallLetter_of_not_ascii {c : Char} (hc : ¬ c.val < 128) (hkelvin : c ≠ '\u212a') :
    smallLetter c = c := by
  -- a capital that has a small letter by itself is at most a `Z`
  have hcapital : ¬ (c.val ≥ 'A'.val ∧ c.val ≤ 'Z'.val) := by
    rintro ⟨-, hle⟩
    exact hc (UInt32.lt_of_le_of_lt hle (by decide : 'Z'.val < 128))
  rw [smallLetter, if_neg hkelvin]
  exact dif_neg hcapital

namespace Text

variable {w : List Char}

/-- In a word of ASCII nothing but a small letter stands for a character in lower case. -/
theorem lowerChar_append_eq_iff (hw : ∀ x ∈ w, x.val < 128) (c : Char) (rest : List Char) :
    lowerChar c ++ rest = w ↔ smallLetter c :: rest = w := by
  -- a character outside ASCII on either side stands in no such word
  have hforeign : ∀ {x : Char} {s : List Char}, ¬ x.val < 128 → x ∈ s → s ≠ w := by
    rintro x s hx hmem rfl
    exact hx (hw x hmem)
  have hkelvin : Unicode.lowerOf? '\u212a'.toNat Unicode.caseRuns = some 0x6B := by
    decide +kernel
  rcases lowerChar_cases c with ⟨hascii, hlower⟩ | ⟨rfl, hlower⟩ | ⟨hascii, hform, hlower⟩ |
    ⟨hascii, n, hform, hlower⟩
  · rw [hlower, smallLetter_of_ascii hascii, List.singleton_append]
  · rw [hlower, smallLetter_of_not_ascii (by decide) (by decide)]
    refine iff_of_false (hforeign (x := '\u0307') (by decide) (by simp)) ?_
    exact hforeign (x := '\u0130') (by decide) (List.mem_cons_self ..)
  · have hne : c ≠ '\u212a' := by
      rintro rfl
      rw [hkelvin] at hform
      exact nomatch hform
    rw [hlower, smallLetter_of_not_ascii hascii hne, List.singleton_append]
  · by_cases hne : c = '\u212a'
    · subst hne
      obtain rfl := Option.some.inj (hkelvin.symm.trans hform)
      rw [hlower, List.singleton_append]
      rfl
    · rw [hlower, smallLetter_of_not_ascii hascii hne]
      refine iff_of_false (hforeign (x := Char.ofNat n) (fun hlt => hne ?_) (by simp))
        (hforeign hascii (List.mem_cons_self ..))
      -- otherwise the character would be the Kelvin sign
      have hn : n < 128 := by
        rw [← Unicode.toNat_ofNat_of_lowerOf? hform]
        exact UInt32.lt_iff_toNat_lt.mp hlt
      exact Char.toNat_inj.mp (Unicode.eq_kelvin_of_lowerOf? hform hn).1

theorem lowercaseFrom_eq_iff (hw : ∀ x ∈ w, x.val < 128) {s : List Char} :
    ∀ {before : List Char}, lowercaseFrom before s = w ↔ s.map smallLetter = w := by
  induction s generalizing w with
  | nil =>
    intro before
    exact Iff.rfl
  | cons c s ih =>
    intro before
    have hstep : lowercaseFrom before (c :: s) = w ↔
        smallLetter c :: lowercaseFrom (c :: before) s = w := by
      rw [lowercaseFrom]
      split_ifs with hsigma
      · subst hsigma
        refine iff_of_false ?_ ?_
        · rintro rfl
          have hascii := hw (lowerSigma before s) (by simp)
          rw [lowerSigma] at hascii
          split_ifs at hascii <;> exact absurd hascii (by decide)
        · rintro rfl
          exact absurd (hw _ (List.mem_cons_self ..)) (by decide)
      · exact lowerChar_append_eq_iff hw c _
    rw [hstep, List.map_cons]
    cases w with
    | nil => exact iff_of_false (List.cons_ne_nil _ _) (List.cons_ne_nil _ _)
    | cons x w => rw [List.cons.injEq, List.cons.injEq, ih (List.forall_mem_cons.mp hw).2]

/-- **A text in lower case is a given word of ASCII exactly if its letters are those of the word**,
when capitals of ASCII count as small letters and the Kelvin sign as a k. -/
theorem lowercase_eq_iff (hw : ∀ x ∈ w, x.val < 128) {s : List Char} :
    lowercase s = w ↔ s.map smallLetter = w :=
  lowercaseFrom_eq_iff hw

end Text
end HeaderSurvey
