import HeaderSurvey.Proofs.Text.Cursor

/-!
# Texts as bytes

The bytes of a text in UTF-8, and what the places of a text are among them.  The offset of a place
counts the bytes before it (`length_bytes`), a stretch between two places is a slice of the bytes
(`slice_bytes`), and the byte at a place is the first byte of the character there
(`getElem?_bytes_offset`).

A byte of an ASCII character occurs nowhere inside another character.  So such bytes can be counted
in the text instead (`count_bytes`), and also up to an offset that cuts a character in two
(`exists_prefix_count_take`).
-/

namespace HeaderSurvey.Text

/-- The bytes of a text in UTF-8. -/
def bytes (s : List Char) : List UInt8 :=
  s.flatMap String.utf8EncodeChar

/-- The byte of an ASCII character. -/
def asciiByte (c : Char) : UInt8 :=
  UInt8.ofNat c.toNat

/-- The bytes from offset `i` up to offset `j`. -/
def slice (bs : List UInt8) (i j : Nat) : List UInt8 :=
  (bs.take j).drop i

/-- Whether the offset lies between two characters of the text, or at one of its ends. -/
def IsBoundary (s : List Char) (i : Nat) : Prop :=
  ∃ pre post, s = pre ++ post ∧ byteLength pre = i

/-! ### The bytes of single characters -/

theorem utf8EncodeChar_of_ascii {c : Char} (h : c.toNat < 0x80) :
    String.utf8EncodeChar c = [asciiByte c] := by
  have hle : c.val.toNat ≤ 0x7f := by
    have : c.val.toNat < 0x80 := h
    omega
  simp only [String.utf8EncodeChar, hle, ↓reduceIte]
  rfl

/-- Outside ASCII every byte of a character has its highest bit set. -/
theorem le_of_mem_utf8EncodeChar {c : Char} (h : 0x80 ≤ c.toNat) {b : UInt8}
    (hb : b ∈ String.utf8EncodeChar c) : 0x80 ≤ b.toNat := by
  have hv : c.val.toNat < 0x110000 := by
    have := c.valid
    rcases this with h1 | ⟨-, h2⟩
    · have h1' : c.val.toNat < 0xd800 := h1
      omega
    · exact h2
  have hnot : ¬ c.val.toNat ≤ 0x7f := by
    have : 0x80 ≤ c.val.toNat := h
    omega
  have hsum : ∀ n : Nat, 0x80 ≤ n → n < 0x100 → 0x80 ≤ (UInt8.ofNat n).toNat := by
    intro n h1 h2
    rw [UInt8.toNat_ofNat', Nat.mod_eq_of_lt (by omega)]
    exact h1
  simp only [String.utf8EncodeChar, hnot, ↓reduceIte] at hb
  split_ifs at hb
  all_goals
    simp only [List.mem_cons, List.not_mem_nil, or_false] at hb
  · rcases hb with rfl | rfl <;> exact hsum _ (by omega) (by omega)
  · rcases hb with rfl | rfl | rfl <;> exact hsum _ (by omega) (by omega)
  · rcases hb with rfl | rfl | rfl | rfl <;> exact hsum _ (by omega) (by omega)

theorem toNat_asciiByte {c : Char} (h : c.toNat < 0x80) : (asciiByte c).toNat = c.toNat := by
  rw [asciiByte, UInt8.toNat_ofNat', Nat.mod_eq_of_lt (by omega)]

theorem asciiByte_inj {c d : Char} (hc : c.toNat < 0x80) (hd : d.toNat < 0x80) :
    asciiByte c = asciiByte d ↔ c = d := by
  constructor
  · intro h
    have hnat := congrArg UInt8.toNat h
    rw [toNat_asciiByte hc, toNat_asciiByte hd] at hnat
    exact Char.ext (UInt32.toNat_inj.mp hnat)
  · rintro rfl
    rfl

/-! ### The bytes of a text -/

@[simp] theorem bytes_nil : bytes [] = [] :=
  rfl

theorem bytes_cons (c : Char) (s : List Char) :
    bytes (c :: s) = String.utf8EncodeChar c ++ bytes s :=
  rfl

@[simp] theorem bytes_append (s t : List Char) : bytes (s ++ t) = bytes s ++ bytes t :=
  List.flatMap_append

@[simp] theorem length_bytes (s : List Char) : (bytes s).length = byteLength s := by
  induction s with
  | nil => rfl
  | cons c s ih =>
    rw [bytes_cons, List.length_append, String.length_utf8EncodeChar, ih, byteLength]

theorem count_utf8EncodeChar {x : Char} (hx : x.toNat < 0x80) (c : Char) :
    (String.utf8EncodeChar c).count (asciiByte x) = [c].count x := by
  by_cases hc : c.toNat < 0x80
  · rw [utf8EncodeChar_of_ascii hc, List.count_singleton, List.count_singleton]
    by_cases hcx : c = x
    · simp [hcx]
    · have hne : asciiByte c ≠ asciiByte x := fun h => hcx ((asciiByte_inj hc hx).mp h)
      rw [beq_eq_false_iff_ne.mpr hne, beq_eq_false_iff_ne.mpr hcx]
  · have hnot : asciiByte x ∉ String.utf8EncodeChar c := by
      intro hmem
      have := le_of_mem_utf8EncodeChar (Nat.not_lt.mp hc) hmem
      rw [toNat_asciiByte hx] at this
      omega
    have hcx : x ∉ [c] := by
      rintro hmem
      rw [List.mem_singleton] at hmem
      exact hc (hmem ▸ hx)
    rw [List.count_eq_zero.mpr hnot, List.count_eq_zero.mpr hcx]

/-- An ASCII character occurs as often in a text as its byte among the bytes. -/
theorem count_bytes {x : Char} (hx : x.toNat < 0x80) (s : List Char) :
    (bytes s).count (asciiByte x) = s.count x := by
  induction s with
  | nil => rfl
  | cons c s ih =>
    rw [bytes_cons, List.count_append, count_utf8EncodeChar hx, ih, ← List.count_append,
      List.singleton_append]

/-- However many bytes are taken, the ASCII characters among them are those of some beginning of
the text. -/
theorem exists_prefix_count_take (s : List Char) (n : Nat) :
    ∃ p, p <+: s ∧ ∀ x : Char, x.toNat < 0x80 →
      ((bytes s).take n).count (asciiByte x) = p.count x := by
  induction s generalizing n with
  | nil => exact ⟨[], List.prefix_refl _, fun x _ => by simp⟩
  | cons c s ih =>
    by_cases hn : (String.utf8EncodeChar c).length ≤ n
    · obtain ⟨p, hp, hcount⟩ := ih (n - (String.utf8EncodeChar c).length)
      refine ⟨c :: p, List.cons_prefix_cons.mpr ⟨rfl, hp⟩, ?_⟩
      intro x hx
      rw [bytes_cons, List.take_append, List.take_of_length_le hn, List.count_append,
        count_utf8EncodeChar hx, hcount x hx, ← List.count_append, List.singleton_append]
    · refine ⟨[], List.nil_prefix, ?_⟩
      intro x hx
      rw [bytes_cons, List.take_append_of_le_length (by omega), List.count_nil,
        List.count_eq_zero]
      intro hmem
      by_cases hc : c.toNat < 0x80
      · rw [utf8EncodeChar_of_ascii hc, List.length_singleton] at hn
        obtain rfl : n = 0 := by omega
        simp at hmem
      · have := le_of_mem_utf8EncodeChar (Nat.not_lt.mp hc) (List.mem_of_mem_take hmem)
        rw [toNat_asciiByte hx] at this
        omega

/-! ### Places among the bytes -/

theorem isBoundary_offset (c : Cursor) : IsBoundary c.text c.offset := by
  refine ⟨c.before.reverse, c.rest, rfl, ?_⟩
  rw [byteLength_reverse, Cursor.offset]

theorem drop_bytes_offset (c : Cursor) : (bytes c.text).drop c.offset = bytes c.rest := by
  have hlen : c.offset = (bytes c.before.reverse).length := by
    rw [length_bytes, byteLength_reverse, Cursor.offset]
  rw [Cursor.text, bytes_append, hlen, List.drop_left]

/-- The stretch between two places is a slice of the bytes. -/
theorem slice_bytes {c d : Cursor} (h : c ≤ d) :
    slice (bytes c.text) c.offset d.offset = bytes (c.upTo d) := by
  have hoff : d.offset = c.offset + (bytes (c.upTo d)).length := by
    rw [length_bytes]
    exact Cursor.offset_eq_of_le h
  rw [slice, List.drop_take, drop_bytes_offset, Cursor.rest_eq_upTo h, bytes_append, hoff,
    Nat.add_sub_cancel_left, List.take_left]

theorem getElem?_bytes_add (c : Cursor) (i : Nat) :
    (bytes c.text)[c.offset + i]? = (bytes c.rest)[i]? := by
  rw [← drop_bytes_offset, List.getElem?_drop]

/-- At the place of an ASCII character stands its byte. -/
theorem getElem?_bytes_offset {c : Cursor} {x : Char} {rest : List Char} (h : c.rest = x :: rest)
    (hx : x.toNat < 0x80) : (bytes c.text)[c.offset]? = some (asciiByte x) := by
  have hget := getElem?_bytes_add c 0
  rw [Nat.add_zero] at hget
  rw [hget, h, bytes_cons, utf8EncodeChar_of_ascii hx, List.singleton_append,
    List.getElem?_cons_zero]

/-- At the place of any other character stands no byte of ASCII. -/
theorem le_of_getElem?_bytes_offset {c : Cursor} {x : Char} {rest : List Char}
    (h : c.rest = x :: rest) (hx : 0x80 ≤ x.toNat) {b : UInt8}
    (hb : (bytes c.text)[c.offset]? = some b) : 0x80 ≤ b.toNat := by
  have hget := getElem?_bytes_add c 0
  rw [Nat.add_zero, hb, h, bytes_cons, List.getElem?_append_left] at hget
  · exact le_of_mem_utf8EncodeChar hx (List.mem_of_getElem? hget.symm)
  · rw [String.length_utf8EncodeChar]
    exact Char.utf8Size_pos x

/-- If a stretch holds only ASCII characters of a kind, so do its bytes. -/
theorem exists_of_getElem?_slice {c d : Cursor} (h : c ≤ d) {P : Char → Prop}
    (hascii : ∀ x, P x → x.toNat < 0x80) (hall : ∀ x ∈ c.upTo d, P x) {i : Nat}
    (hi : c.offset ≤ i) (hid : i < d.offset) :
    ∃ x, P x ∧ (bytes c.text)[i]? = some (asciiByte x) := by
  obtain ⟨k, rfl⟩ := Nat.exists_eq_add_of_le hi
  have hoff := Cursor.offset_eq_of_le h
  have hmap : bytes (c.upTo d) = (c.upTo d).map asciiByte := by
    have : ∀ s : List Char, (∀ x ∈ s, P x) → bytes s = s.map asciiByte := by
      intro s hs
      induction s with
      | nil => rfl
      | cons y s ih =>
        rw [bytes_cons, utf8EncodeChar_of_ascii (hascii y (hs y (List.mem_cons_self ..))),
          ih fun x hx => hs x (List.mem_cons_of_mem y hx), List.singleton_append, List.map_cons]
    exact this _ hall
  have hk : k < (bytes (c.upTo d)).length := by
    rw [length_bytes]
    omega
  rw [getElem?_bytes_add, Cursor.rest_eq_upTo h, bytes_append, List.getElem?_append_left hk]
  rw [hmap, List.length_map] at hk
  refine ⟨(c.upTo d)[k], hall _ (List.getElem_mem hk), ?_⟩
  rw [hmap, List.getElem?_map, List.getElem?_eq_getElem hk, Option.map_some]

end HeaderSurvey.Text
