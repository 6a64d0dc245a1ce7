import HeaderSurvey.Proofs.Text.Bytes
import HeaderSurvey.Text.Utf8

/-!
# Decoding of bytes

What is decoded from the bytes of a text is the text (`decode_bytes`), and bytes from which no
malformed piece is decoded are those of the text that is (`bytes_of_decodeFrom`).  So the bytes without a
malformed piece are the texts (`isValid_iff`).

Whatever the bytes are, those of ASCII are decoded one by one and in their order, and nothing else is
decoded to a character of ASCII (`filter_ascii_decodeLossy`).  What carries this is an invariant on the
character that has begun: however it goes on, it is the encoding of a character, and that begins with
the bytes read so far (`HasRead`).
-/

namespace HeaderSurvey.Utf8

open Text (asciiByte bytes bytes_cons bytes_nil)

/-! ### The encoding of a number -/

theorem ofNat_eq {n : Nat} {b : UInt8} (h : n = b.toNat) : UInt8.ofNat n = b := by
  rw [h]
  exact UInt8.ofNat_toNat

theorem toNat_ofNat {v : Nat} (hv : v.isValidChar) : (Char.ofNat v).val.toNat = v := by
  rw [Char.ofNat, dif_pos hv]
  rfl

/-- The number that two bytes stand for is encoded by them. -/
theorem encode_two {v : Nat} {a b : UInt8} (ha : 0xC2 ≤ a.toNat ∧ a.toNat ≤ 0xDF)
    (hb : 0x80 ≤ b.toNat ∧ b.toNat ≤ 0xBF) (hv : v = (a.toNat - 0xC0) * 0x40 + (b.toNat - 0x80)) :
    String.utf8EncodeChar (Char.ofNat v) = [a, b] := by
  have hvalid : v.isValidChar := Or.inl (by omega)
  have hlow : ¬ v ≤ 0x7f := by omega
  have hhigh : v ≤ 0x7ff := by omega
  simp only [String.utf8EncodeChar, toNat_ofNat hvalid, hlow, hhigh, ↓reduceIte]
  rw [ofNat_eq (b := a) (by omega), ofNat_eq (b := b) (by omega)]

/-- The number that three bytes stand for is encoded by them, if it needs three and is no half of a
pair. -/
theorem encode_three {v : Nat} {a b c : UInt8} (ha : 0xE0 ≤ a.toNat ∧ a.toNat ≤ 0xEF)
    (hb : 0x80 ≤ b.toNat ∧ b.toNat ≤ 0xBF) (hc : 0x80 ≤ c.toNat ∧ c.toNat ≤ 0xBF)
    (hlow : a.toNat = 0xE0 → 0xA0 ≤ b.toNat) (hpair : a.toNat = 0xED → b.toNat ≤ 0x9F)
    (hv : v = ((a.toNat - 0xE0) * 0x40 + (b.toNat - 0x80)) * 0x40 + (c.toNat - 0x80)) :
    String.utf8EncodeChar (Char.ofNat v) = [a, b, c] := by
  have hvalid : v.isValidChar := by
    by_cases hlt : v < 0xd800
    · exact Or.inl hlt
    · exact Or.inr (by omega)
  have h1 : ¬ v ≤ 0x7f := by omega
  have h2 : ¬ v ≤ 0x7ff := by omega
  have h3 : v ≤ 0xffff := by omega
  simp only [String.utf8EncodeChar, toNat_ofNat hvalid, h1, h2, h3, ↓reduceIte]
  rw [ofNat_eq (b := a) (by omega), ofNat_eq (b := b) (by omega), ofNat_eq (b := c) (by omega)]

/-- The number that four bytes stand for is encoded by them, if it needs four and is not too
great. -/
theorem encode_four {v : Nat} {a b c d : UInt8} (ha : 0xF0 ≤ a.toNat ∧ a.toNat ≤ 0xF4)
    (hb : 0x80 ≤ b.toNat ∧ b.toNat ≤ 0xBF) (hc : 0x80 ≤ c.toNat ∧ c.toNat ≤ 0xBF)
    (hd : 0x80 ≤ d.toNat ∧ d.toNat ≤ 0xBF) (hlow : a.toNat = 0xF0 → 0x90 ≤ b.toNat)
    (hhigh : a.toNat = 0xF4 → b.toNat ≤ 0x8F)
    (hv : v = (((a.toNat - 0xF0) * 0x40 + (b.toNat - 0x80)) * 0x40 + (c.toNat - 0x80)) * 0x40 +
      (d.toNat - 0x80)) :
    String.utf8EncodeChar (Char.ofNat v) = [a, b, c, d] := by
  have hvalid : v.isValidChar := Or.inr (by omega)
  have h1 : ¬ v ≤ 0x7f := by omega
  have h2 : ¬ v ≤ 0x7ff := by omega
  have h3 : ¬ v ≤ 0xffff := by omega
  simp only [String.utf8EncodeChar, toNat_ofNat hvalid, h1, h2, h3, ↓reduceIte]
  rw [ofNat_eq (b := a) (by omega), ofNat_eq (b := b) (by omega), ofNat_eq (b := c) (by omega),
    ofNat_eq (b := d) (by omega)]

/-! ### What a first byte begins -/

/-- The least byte that may follow a first byte: any lesser one would encode a number that needs fewer
bytes. -/
def lowAfter (a : Nat) : Nat :=
  if a = 0xE0 then 0xA0 else if a = 0xF0 then 0x90 else 0x80

/-- The greatest byte that may follow a first byte: any greater one would encode half of a pair or a
number that is too great. -/
def highAfter (a : Nat) : Nat :=
  if a = 0xED then 0x9F else if a = 0xF4 then 0x8F else 0xBF

theorem start_ascii {a : Nat} (h : a < 0x80) : start a = ([some (Char.ofNat a)], none) :=
  if_pos h

theorem start_two {a : Nat} (h : 0xC2 ≤ a ∧ a ≤ 0xDF) :
    start a = ([], some ⟨a - 0xC0, 0, 0x80, 0xBF⟩) := by
  rw [start, if_neg (by omega), if_pos h]

theorem start_three {a : Nat} (h : 0xE0 ≤ a ∧ a ≤ 0xEF) :
    start a = ([], some ⟨a - 0xE0, 1, lowAfter a, highAfter a⟩) := by
  rw [start, if_neg (by omega), if_neg (by omega)]
  by_cases h0 : a = 0xE0
  · subst h0
    rfl
  by_cases hd : a = 0xED
  · subst hd
    rfl
  rw [if_neg h0, if_neg hd, if_pos (by omega), lowAfter, highAfter, if_neg h0, if_neg (by omega),
    if_neg hd, if_neg (by omega)]

theorem start_four {a : Nat} (h : 0xF0 ≤ a ∧ a ≤ 0xF4) :
    start a = ([], some ⟨a - 0xF0, 2, lowAfter a, highAfter a⟩) := by
  rw [start, if_neg (by omega), if_neg (by omega), if_neg (by omega), if_neg (by omega),
    if_neg (by omega)]
  by_cases h0 : a = 0xF0
  · subst h0
    rfl
  by_cases h4 : a = 0xF4
  · subst h4
    rfl
  rw [if_neg h0, if_pos (by omega), lowAfter, highAfter, if_neg (by omega), if_neg h0,
    if_neg (by omega), if_neg h4]

theorem start_malformed {a : Nat} (h : 0x80 ≤ a ∧ a < 0xC2 ∨ 0xF4 < a) : start a = ([none], none) := by
  rw [start, if_neg (by omega), if_neg (by omega), if_neg (by omega), if_neg (by omega),
    if_neg (by omega), if_neg (by omega), if_neg (by omega), if_neg (by omega)]

theorem proceed_of_mem {c : Begun} {b : Nat} (h : c.low ≤ b ∧ b ≤ c.high) :
    proceed c b =
      match c.owed with
      | 0 => ([some (Char.ofNat (c.value * 0x40 + (b - 0x80)))], none)
      | owed + 1 => ([], some ⟨c.value * 0x40 + (b - 0x80), owed, 0x80, 0xBF⟩) :=
  if_pos h

theorem proceed_of_not_mem {c : Begun} {b : Nat} (h : ¬(c.low ≤ b ∧ b ≤ c.high)) :
    proceed c b = (none :: (start b).1, (start b).2) :=
  if_neg h

/-- The bytes are those that have been read of a character that has begun. -/
inductive Begun.HasRead : Begun → List UInt8 → Prop
  | firstOfTwo {a : UInt8} : 0xC2 ≤ a.toNat ∧ a.toNat ≤ 0xDF →
      HasRead ⟨a.toNat - 0xC0, 0, 0x80, 0xBF⟩ [a]
  | firstOfThree {a : UInt8} : 0xE0 ≤ a.toNat ∧ a.toNat ≤ 0xEF →
      HasRead ⟨a.toNat - 0xE0, 1, lowAfter a.toNat, highAfter a.toNat⟩ [a]
  | secondOfThree {a b : UInt8} : 0xE0 ≤ a.toNat ∧ a.toNat ≤ 0xEF →
      lowAfter a.toNat ≤ b.toNat ∧ b.toNat ≤ highAfter a.toNat →
      HasRead ⟨(a.toNat - 0xE0) * 0x40 + (b.toNat - 0x80), 0, 0x80, 0xBF⟩ [a, b]
  | firstOfFour {a : UInt8} : 0xF0 ≤ a.toNat ∧ a.toNat ≤ 0xF4 →
      HasRead ⟨a.toNat - 0xF0, 2, lowAfter a.toNat, highAfter a.toNat⟩ [a]
  | secondOfFour {a b : UInt8} : 0xF0 ≤ a.toNat ∧ a.toNat ≤ 0xF4 →
      lowAfter a.toNat ≤ b.toNat ∧ b.toNat ≤ highAfter a.toNat →
      HasRead ⟨(a.toNat - 0xF0) * 0x40 + (b.toNat - 0x80), 1, 0x80, 0xBF⟩ [a, b]
  | thirdOfFour {a b c : UInt8} : 0xF0 ≤ a.toNat ∧ a.toNat ≤ 0xF4 →
      lowAfter a.toNat ≤ b.toNat ∧ b.toNat ≤ highAfter a.toNat →
      0x80 ≤ c.toNat ∧ c.toNat ≤ 0xBF →
      HasRead ⟨((a.toNat - 0xF0) * 0x40 + (b.toNat - 0x80)) * 0x40 + (c.toNat - 0x80), 0, 0x80,
        0xBF⟩ [a, b, c]

theorem lowAfter_bounds (a : Nat) :
    0x80 ≤ lowAfter a ∧ (a = 0xE0 → 0xA0 ≤ lowAfter a) ∧ (a = 0xF0 → 0x90 ≤ lowAfter a) := by
  unfold lowAfter
  split_ifs
  all_goals omega

theorem highAfter_bounds (a : Nat) :
    highAfter a ≤ 0xBF ∧ (a = 0xED → highAfter a ≤ 0x9F) ∧ (a = 0xF4 → highAfter a ≤ 0x8F) := by
  unfold highAfter
  split_ifs
  all_goals omega

namespace Begun.HasRead

variable {c : Begun} {front : List UInt8}

theorem le_low (h : c.HasRead front) : 0x80 ≤ c.low := by
  cases h with
  | firstOfThree _ => exact (lowAfter_bounds _).1
  | firstOfFour _ => exact (lowAfter_bounds _).1
  | _ => exact Nat.le_refl _

/-- The last byte of a character completes its encoding. -/
theorem encode_last (h : c.HasRead front) (howed : c.owed = 0) {b : UInt8}
    (hb : c.low ≤ b.toNat ∧ b.toNat ≤ c.high) :
    String.utf8EncodeChar (Char.ofNat (c.value * 0x40 + (b.toNat - 0x80))) = front ++ [b] := by
  cases h with
  | firstOfTwo ha => exact encode_two ha hb rfl
  | @secondOfThree a b' ha hb' =>
    have hlow := lowAfter_bounds a.toNat
    have hhigh := highAfter_bounds a.toNat
    exact encode_three ha (by omega) hb (by omega) (by omega) rfl
  | @thirdOfFour a b' c' ha hb' hc' =>
    have hlow := lowAfter_bounds a.toNat
    have hhigh := highAfter_bounds a.toNat
    exact encode_four ha (by omega) hc' hb (by omega) (by omega) rfl
  | firstOfThree _ => exact nomatch howed
  | firstOfFour _ => exact nomatch howed
  | secondOfFour _ _ => exact nomatch howed

/-- Any other byte that can follow is read. -/
theorem next (h : c.HasRead front) {owed : Nat} (howed : c.owed = owed + 1) {b : UInt8}
    (hb : c.low ≤ b.toNat ∧ b.toNat ≤ c.high) :
    HasRead ⟨c.value * 0x40 + (b.toNat - 0x80), owed, 0x80, 0xBF⟩ (front ++ [b]) := by
  cases h with
  | firstOfThree ha =>
    obtain rfl : owed = 0 := by simpa using howed.symm
    exact .secondOfThree ha hb
  | firstOfFour ha =>
    obtain rfl : owed = 1 := by simpa using howed.symm
    exact .secondOfFour ha hb
  | secondOfFour ha hb' =>
    obtain rfl : owed = 0 := by simpa using howed.symm
    exact .thirdOfFour ha hb' hb
  | firstOfTwo _ => exact nomatch howed
  | secondOfThree _ _ => exact nomatch howed
  | thirdOfFour _ _ _ => exact nomatch howed

theorem ne_nil (h : c.HasRead front) : front ≠ [] := by
  cases h
  all_goals exact List.cons_ne_nil _ _

end Begun.HasRead

/-! ### Steps -/

/-- A first byte is a character of ASCII, begins another character, or is malformed. -/
theorem start_cases (b : UInt8) :
    (b.toNat < 0x80 ∧ start b.toNat = ([some (Char.ofNat b.toNat)], none)) ∨
      (0x80 ≤ b.toNat ∧ ∃ c, start b.toNat = ([], some c) ∧ c.HasRead [b]) ∨
      (0x80 ≤ b.toNat ∧ start b.toNat = ([none], none)) := by
  by_cases hascii : b.toNat < 0x80
  · exact Or.inl ⟨hascii, start_ascii hascii⟩
  by_cases htwo : 0xC2 ≤ b.toNat ∧ b.toNat ≤ 0xDF
  · exact Or.inr (Or.inl ⟨by omega, _, start_two htwo, .firstOfTwo htwo⟩)
  by_cases hthree : 0xE0 ≤ b.toNat ∧ b.toNat ≤ 0xEF
  · exact Or.inr (Or.inl ⟨by omega, _, start_three hthree, .firstOfThree hthree⟩)
  by_cases hfour : 0xF0 ≤ b.toNat ∧ b.toNat ≤ 0xF4
  · exact Or.inr (Or.inl ⟨by omega, _, start_four hfour, .firstOfFour hfour⟩)
  · exact Or.inr (Or.inr ⟨by omega, start_malformed (by omega)⟩)

/-- A further byte completes the character, goes on with it, or makes it a malformed piece and is
looked at afresh. -/
theorem proceed_cases {c : Begun} {front : List UInt8} (h : c.HasRead front) (b : UInt8) :
    (0x80 ≤ b.toNat ∧ ∃ x : Char, proceed c b.toNat = ([some x], none) ∧ 0x80 ≤ x.toNat ∧
        String.utf8EncodeChar x = front ++ [b]) ∨
      (0x80 ≤ b.toNat ∧ ∃ c', proceed c b.toNat = ([], some c') ∧ c'.HasRead (front ++ [b])) ∨
      proceed c b.toNat = (none :: (start b.toNat).1, (start b.toNat).2) := by
  by_cases hb : c.low ≤ b.toNat ∧ b.toNat ≤ c.high
  · have hbyte : 0x80 ≤ b.toNat := Nat.le_trans h.le_low hb.1
    cases howed : c.owed with
    | zero =>
      have hencode := h.encode_last howed hb
      refine Or.inl ⟨hbyte, _, ?_, ?_, hencode⟩
      · rw [proceed_of_mem hb, howed]
      · -- a character of ASCII has one byte only
        by_contra hascii
        rw [Text.utf8EncodeChar_of_ascii (Nat.not_le.mp hascii)] at hencode
        have hlength := congrArg List.length hencode
        rw [List.length_append, List.length_singleton, List.length_singleton] at hlength
        exact h.ne_nil (List.eq_nil_of_length_eq_zero (by omega))
    | succ owed =>
      refine Or.inr (Or.inl ⟨hbyte, _, ?_, h.next howed hb⟩)
      rw [proceed_of_mem hb, howed]
  · exact Or.inr (Or.inr (proceed_of_not_mem hb))

/-- What has been read of a character, if one has begun. -/
def HasRead : Option Begun → List UInt8 → Prop
  | none, front => front = []
  | some c, front => c.HasRead front

theorem hasRead_none : HasRead none [] :=
  rfl

theorem hasRead_some {c : Begun} {front : List UInt8} (h : c.HasRead front) : HasRead (some c) front :=
  h

theorem decodeFrom_none_cons (b : UInt8) (bs : List UInt8) :
    decodeFrom none (b :: bs) = (start b.toNat).1 ++ decodeFrom (start b.toNat).2 bs :=
  rfl

theorem decodeFrom_some_cons (c : Begun) (b : UInt8) (bs : List UInt8) :
    decodeFrom (some c) (b :: bs) = (proceed c b.toNat).1 ++ decodeFrom (proceed c b.toNat).2 bs :=
  rfl

/-- A byte that cannot go on with a character is read as if none had begun. -/
theorem decodeFrom_malformed {c : Begun} {b : UInt8} (bs : List UInt8)
    (h : proceed c b.toNat = (none :: (start b.toNat).1, (start b.toNat).2)) :
    decodeFrom (some c) (b :: bs) = none :: decodeFrom none (b :: bs) := by
  rw [decodeFrom_some_cons, h]
  rfl

/-! ### The bytes of ASCII -/

/-- The bytes of the characters of ASCII that have been decoded; a malformed piece counts as its
replacement. -/
def asciiBytes (cs : List (Option Char)) : List UInt8 :=
  ((cs.map (·.getD '\ufffd')).filter (·.toNat < 0x80)).map asciiByte

theorem asciiBytes_append (cs cs' : List (Option Char)) :
    asciiBytes (cs ++ cs') = asciiBytes cs ++ asciiBytes cs' := by
  simp only [asciiBytes, List.map_append, List.filter_append]

theorem asciiBytes_cons_none (cs : List (Option Char)) : asciiBytes (none :: cs) = asciiBytes cs :=
  rfl

theorem asciiBytes_of_le {x : Char} (h : 0x80 ≤ x.toNat) : asciiBytes [some x] = [] := by
  have hnot : ¬ x.toNat < 0x80 := Nat.not_lt.mpr h
  simp [asciiBytes, hnot]

theorem asciiBytes_ofNat {b : UInt8} (h : b.toNat < 0x80) :
    asciiBytes [some (Char.ofNat b.toNat)] = [b] := by
  have hvalid : b.toNat.isValidChar := Or.inl (by omega)
  have hnat : (Char.ofNat b.toNat).toNat = b.toNat := toNat_ofNat hvalid
  simp [asciiBytes, hnat, h, asciiByte]

/-- **The bytes of ASCII are decoded one by one**, and nothing else is decoded to a character of
ASCII. -/
theorem asciiBytes_decodeFrom {begun : Option Begun} {front : List UInt8} (h : HasRead begun front)
    (bs : List UInt8) : asciiBytes (decodeFrom begun bs) = bs.filter (·.toNat < 0x80) := by
  induction bs generalizing begun front with
  | nil =>
    cases begun with
    | none => rfl
    | some c => rfl
  | cons b bs ih =>
    -- a byte that breaks a sequence off is read again as a first one
    have hfirst : asciiBytes (decodeFrom none (b :: bs)) = (b :: bs).filter (·.toNat < 0x80) := by
      rw [decodeFrom_none_cons, asciiBytes_append]
      rcases start_cases b with ⟨hb, hstart⟩ | ⟨hb, c, hstart, hread⟩ | ⟨hb, hstart⟩
      · rw [hstart, asciiBytes_ofNat hb, ih hasRead_none,
          List.filter_cons_of_pos (by simpa using hb)]
        rfl
      · rw [hstart, ih (hasRead_some hread), List.filter_cons_of_neg (by simpa using hb)]
        rfl
      · rw [hstart, ih hasRead_none, List.filter_cons_of_neg (by simpa using hb)]
        rfl
    cases begun with
    | none => exact hfirst
    | some c =>
      rcases proceed_cases h b with ⟨hb, x, hproceed, hx, -⟩ | ⟨hb, c', hproceed, hread⟩ | hproceed
      · rw [decodeFrom_some_cons, hproceed, asciiBytes_append, asciiBytes_of_le hx,
          ih hasRead_none, List.filter_cons_of_neg (by simpa using hb)]
        rfl
      · rw [decodeFrom_some_cons, hproceed, asciiBytes_append, ih (hasRead_some hread),
          List.filter_cons_of_neg (by simpa using hb)]
        rfl
      · rw [decodeFrom_malformed bs hproceed, asciiBytes_cons_none, hfirst]

/-- **Lossy decoding loses, adds and moves no byte of ASCII.** -/
theorem filter_ascii_decodeLossy (bs : List UInt8) :
    ((decodeLossy bs).toList.filter (·.toNat < 0x80)).map asciiByte =
      bs.filter (·.toNat < 0x80) := by
  rw [decodeLossy, String.toList_ofList]
  exact asciiBytes_decodeFrom hasRead_none bs

/-! ### Texts -/

/-- **Bytes from which no malformed piece is decoded are those of the text that is decoded.** -/
theorem bytes_of_decodeFrom {begun : Option Begun} {front bs : List UInt8} {s : List Char}
    (h : HasRead begun front) (hs : decodeFrom begun bs = s.map some) : front ++ bs = bytes s := by
  induction bs generalizing begun front s with
  | nil =>
    cases begun with
    | none =>
      obtain rfl : s = [] := List.map_eq_nil_iff.mp hs.symm
      rw [show front = [] from h]
      rfl
    | some c =>
      cases s with
      | nil => exact absurd hs (List.cons_ne_nil none [])
      | cons x s => exact absurd (List.cons.inj hs).1.symm (Option.some_ne_none x)
  | cons b bs ih =>
    -- what is decoded first is a character, which is the first of the text
    have hmalformed : ∀ {cs : List (Option Char)}, none :: cs ≠ s.map some := by
      intro cs heq
      have hmem : none ∈ s.map some := heq ▸ List.mem_cons_self ..
      simp at hmem
    have hfirst : ∀ {x : Char} {cs : List (Option Char)}, some x :: cs = s.map some →
        ∃ s', s = x :: s' ∧ cs = s'.map some := by
      intro x cs heq
      obtain ⟨y, s', rfl, hy, hrest⟩ := List.map_eq_cons_iff.mp heq.symm
      rw [Option.some.inj hy]
      exact ⟨s', rfl, hrest.symm⟩
    cases begun with
    | none =>
      rw [show front = [] from h, List.nil_append]
      rw [decodeFrom_none_cons] at hs
      rcases start_cases b with ⟨hb, hstart⟩ | ⟨-, c, hstart, hread⟩ | ⟨-, hstart⟩
      · rw [hstart] at hs
        obtain ⟨s, rfl, hrest⟩ := hfirst hs
        have hvalid : b.toNat.isValidChar := Or.inl (by omega)
        have hnat : (Char.ofNat b.toNat).toNat = b.toNat := toNat_ofNat hvalid
        rw [bytes_cons, Text.utf8EncodeChar_of_ascii (by omega), ← ih hasRead_none hrest,
          asciiByte, hnat]
        simp
      · rw [hstart] at hs
        exact ih (hasRead_some hread) hs
      · rw [hstart] at hs
        exact absurd hs hmalformed
    | some c =>
      rcases proceed_cases h b with ⟨-, x, hproceed, -, hencode⟩ | ⟨-, c', hproceed, hread⟩ | hproceed
      · rw [decodeFrom_some_cons, hproceed] at hs
        obtain ⟨s, rfl, hrest⟩ := hfirst hs
        rw [bytes_cons, hencode, ← ih hasRead_none hrest]
        simp
      · rw [decodeFrom_some_cons, hproceed] at hs
        rw [← ih (hasRead_some hread) hs, List.append_assoc, List.singleton_append]
      · rw [decodeFrom_malformed bs hproceed] at hs
        exact absurd hs hmalformed

/-- A byte that can follow completes a character of which one byte is owed. -/
theorem decodeFrom_last {v low high : Nat} {b : UInt8} (hb : low ≤ b.toNat ∧ b.toNat ≤ high)
    (bs : List UInt8) :
    decodeFrom (some ⟨v, 0, low, high⟩) (b :: bs) =
      some (Char.ofNat (v * 0x40 + (b.toNat - 0x80))) :: decodeFrom none bs := by
  rw [decodeFrom_some_cons, proceed_of_mem hb]
  rfl

/-- A byte that can follow goes on with a character of which more bytes are owed. -/
theorem decodeFrom_next {v owed low high : Nat} {b : UInt8} (hb : low ≤ b.toNat ∧ b.toNat ≤ high)
    (bs : List UInt8) :
    decodeFrom (some ⟨v, owed + 1, low, high⟩) (b :: bs) =
      decodeFrom (some ⟨v * 0x40 + (b.toNat - 0x80), owed, 0x80, 0xBF⟩) bs := by
  rw [decodeFrom_some_cons, proceed_of_mem hb]
  rfl

theorem toNat_byte {n : Nat} (h : n < 0x100) : (UInt8.ofNat n).toNat = n := by
  rw [UInt8.toNat_ofNat', Nat.mod_eq_of_lt h]

theorem le_lowAfter {a b : Nat} (hb : 0x80 ≤ b) (h0 : a = 0xE0 → 0xA0 ≤ b)
    (h4 : a = 0xF0 → 0x90 ≤ b) : lowAfter a ≤ b := by
  unfold lowAfter
  split_ifs
  all_goals omega

theorem le_highAfter {a b : Nat} (hb : b ≤ 0xBF) (hd : a = 0xED → b ≤ 0x9F)
    (h4 : a = 0xF4 → b ≤ 0x8F) : b ≤ highAfter a := by
  unfold highAfter
  split_ifs
  all_goals omega

/-- The encoding of a character is decoded to it. -/
theorem decodeFrom_encode (x : Char) (bs : List UInt8) :
    decodeFrom none (String.utf8EncodeChar x ++ bs) = some x :: decodeFrom none bs := by
  have hbound : x.val.toNat < 0xd800 ∨ (0xdfff < x.val.toNat ∧ x.val.toNat < 0x110000) := x.valid
  have hchar : ∀ {v : Nat}, v = x.val.toNat → Char.ofNat v = x := by
    rintro v rfl
    exact Char.ofNat_toNat x
  by_cases h1 : x.val.toNat ≤ 0x7f
  · -- one byte, which is decoded at once
    have hbyte := @toNat_byte x.val.toNat (by omega)
    simp only [String.utf8EncodeChar, h1, ↓reduceIte, List.cons_append, List.nil_append]
    rw [decodeFrom_none_cons, hbyte, start_ascii (by omega), hchar rfl]
    rfl
  by_cases h2 : x.val.toNat ≤ 0x7ff
  · -- two bytes: the first leaves one owed
    have ha := @toNat_byte (x.val.toNat / 64 % 32 + 192) (by omega)
    have hb := @toNat_byte (x.val.toNat % 64 + 128) (by omega)
    simp only [String.utf8EncodeChar, h1, h2, ↓reduceIte, List.cons_append, List.nil_append]
    rw [decodeFrom_none_cons, start_two (by omega)]
    show decodeFrom (some _) _ = _
    rw [decodeFrom_last (by omega), hchar (by omega)]
  by_cases h3 : x.val.toNat ≤ 0xffff
  · -- three bytes: what may follow the first leaves out overlong forms and surrogates
    have ha := @toNat_byte (x.val.toNat / 4096 % 16 + 224) (by omega)
    have hb := @toNat_byte (x.val.toNat / 64 % 64 + 128) (by omega)
    have hc := @toNat_byte (x.val.toNat % 64 + 128) (by omega)
    simp only [String.utf8EncodeChar, h1, h2, h3, ↓reduceIte, List.cons_append, List.nil_append]
    rw [decodeFrom_none_cons, start_three (by omega)]
    show decodeFrom (some _) _ = _
    have hsecond := le_lowAfter (a := x.val.toNat / 4096 % 16 + 224)
      (b := x.val.toNat / 64 % 64 + 128) (by omega) (by omega) (by omega)
    have hsecond' := le_highAfter (a := x.val.toNat / 4096 % 16 + 224)
      (b := x.val.toNat / 64 % 64 + 128) (by omega) (by omega) (by omega)
    rw [decodeFrom_next ⟨by rwa [ha, hb], by rwa [ha, hb]⟩, decodeFrom_last (by omega),
      hchar (by omega)]
  · -- four bytes: it leaves out overlong forms and numbers that are too large
    have ha := @toNat_byte (x.val.toNat / 262144 % 8 + 240) (by omega)
    have hb := @toNat_byte (x.val.toNat / 4096 % 64 + 128) (by omega)
    have hc := @toNat_byte (x.val.toNat / 64 % 64 + 128) (by omega)
    have hd := @toNat_byte (x.val.toNat % 64 + 128) (by omega)
    simp only [String.utf8EncodeChar, h1, h2, h3, ↓reduceIte, List.cons_append, List.nil_append]
    rw [decodeFrom_none_cons, start_four (by omega)]
    show decodeFrom (some _) _ = _
    have hsecond := le_lowAfter (a := x.val.toNat / 262144 % 8 + 240)
      (b := x.val.toNat / 4096 % 64 + 128) (by omega) (by omega) (by omega)
    have hsecond' := le_highAfter (a := x.val.toNat / 262144 % 8 + 240)
      (b := x.val.toNat / 4096 % 64 + 128) (by omega) (by omega) (by omega)
    rw [decodeFrom_next ⟨by rwa [ha, hb], by rwa [ha, hb]⟩, decodeFrom_next (by omega),
      decodeFrom_last (by omega), hchar (by omega)]

/-- **The bytes of a text are decoded to the text.** -/
theorem decode_bytes (s : List Char) : decode (bytes s) = s.map some := by
  induction s with
  | nil => rfl
  | cons x s ih =>
    rw [bytes_cons]
    exact (decodeFrom_encode x _).trans (congrArg (some x :: ·) ih)

theorem encode_eq_bytes (text : String) : encode text = bytes text.toList :=
  rfl

theorem decodeLossy_encode (text : String) : decodeLossy (encode text) = text := by
  rw [decodeLossy, encode_eq_bytes, decode_bytes, List.map_map]
  exact (congrArg String.ofList (List.map_id _)).trans String.ofList_toList

theorem isValid_encode (text : String) : isValid (encode text) = true := by
  rw [isValid, encode_eq_bytes, decode_bytes, List.all_map]
  exact List.all_eq_true.mpr fun _ _ => rfl

/-- Bytes without a malformed piece are those of the text that is decoded. -/
theorem encode_decodeLossy {bs : List UInt8} (h : isValid bs = true) :
    encode (decodeLossy bs) = bs := by
  have hdecode : decode bs = ((decode bs).map (·.getD '\ufffd')).map some := by
    rw [List.map_map]
    refine (List.map_id _).symm.trans (List.map_congr_left fun x hx => ?_)
    obtain ⟨c, rfl⟩ := Option.isSome_iff_exists.mp (List.all_eq_true.mp h x hx)
    rfl
  have hbytes := bytes_of_decodeFrom hasRead_none hdecode
  rw [encode_eq_bytes, decodeLossy, String.toList_ofList]
  exact hbytes.symm

theorem toByteArray_encode (text : String) : (encode text).toByteArray = text.toByteArray := by
  conv => rhs; rw [← String.ofList_toList (s := text)]
  rfl

/-- **The bytes without a malformed piece are the texts.** -/
theorem isValid_iff (bs : List UInt8) : isValid bs = true ↔ bs.toByteArray.IsValidUTF8 := by
  constructor
  · intro h
    exact ⟨(decodeLossy bs).toList, (congrArg List.toByteArray (encode_decodeLossy h)).symm⟩
  · rintro ⟨s, hs⟩
    have hlist : bs = bytes s := by
      have hdata := congrArg (fun b : ByteArray => b.data.toList) hs
      simpa [List.utf8Encode, bytes] using hdata
    rw [hlist, ← String.toList_ofList (l := s)]
    exact isValid_encode (String.ofList s)

end HeaderSurvey.Utf8
