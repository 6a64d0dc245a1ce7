import HeaderSurvey.Proofs.Block.Scan
import HeaderSurvey.Proofs.Text.Bytes
import Mathlib.Order.Bounds.Basic

/-!
# The blocks of a scan, byte by byte

Every block that a scan reports is the brace-matched block of its keyword (`next_block_spec`).  The
statement speaks of the bytes of the text: `IsBodyless` and `IsBraced` say which bytes stand where,
in terms of offsets, slices and counts alone, and `IsMatched` puts them together with the place of
the keyword.

The proof reads the bytes off the places in the text.  That the closing brace is the first at which
the counts agree holds at every byte, also inside a character, because the bytes of braces occur
nowhere else (`Text.exists_prefix_count_take`).
-/

namespace HeaderSurvey

open Text

/-- Whether the byte is a blank of ASCII, other than the vertical tab. -/
def isBlankByte (b : UInt8) : Bool :=
  b = 0x20 || b = 0x09 || b = 0x0a || b = 0x0c || b = 0x0d

/-- The byte of `{`. -/
def openByte : UInt8 :=
  asciiByte '{'

/-- The byte of `}`. -/
def closeByte : UInt8 :=
  asciiByte '}'

/-! ### What a block is among the bytes -/

/-- The block is its keyword alone, and no brace opens behind the keyword and blanks. -/
structure IsBodyless (bs : List UInt8) (b : Block) : Prop where
  body_eq : b.body? = none
  bodySpan_eq : b.bodySpan? = none
  stop_eq : b.stop.offset = b.keyword.stop.offset
  header_eq : bytes b.header = slice bs b.keyword.start.offset b.keyword.stop.offset
  not_open : ∃ i, b.keyword.stop.offset ≤ i ∧
    (∀ j, b.keyword.stop.offset ≤ j → j < i → ∃ x, bs[j]? = some x ∧ isBlankByte x) ∧
    ∀ x, bs[i]? = some x → isBlankByte x = false ∧ x ≠ openByte

/-- The block has braces at the offsets `i` and `j`, behind blanks, and the second is the first
place at which the two braces have occurred equally often. -/
structure IsBraced (s : List Char) (b : Block) (i j : Nat) : Prop where
  open_lt_close : i < j
  keyword_le : b.keyword.stop.offset ≤ i
  blank : ∀ k, b.keyword.stop.offset ≤ k → k < i → ∃ x, (bytes s)[k]? = some x ∧ isBlankByte x
  open_eq : (bytes s)[i]? = some openByte
  close_eq : (bytes s)[j]? = some closeByte
  /-- The depth stays positive up to the closing brace. -/
  depth_pos : ∀ k, i ≤ k → k < j →
    (slice (bytes s) i (k + 1)).count closeByte < (slice (bytes s) i (k + 1)).count openByte
  close_least : IsLeast {k | i < k ∧
    (slice (bytes s) i (k + 1)).count openByte = (slice (bytes s) i (k + 1)).count closeByte} j
  stop_eq : b.stop.offset = j + 1
  header_eq : bytes b.header = slice (bytes s) b.keyword.start.offset i
  body_eq : b.body?.map bytes = some (slice (bytes s) (i + 1) j)
  bodySpan_eq : b.bodySpan? = some ⟨i + 1, j⟩
  open_boundary : IsBoundary s i
  inside_boundary : IsBoundary s (i + 1)
  close_boundary : IsBoundary s j

/-- The block is the brace-matched block of the leftmost match at or after the place `c`. -/
structure IsMatched (p : Pattern) (s : List Char) (c : Cursor) (b : Block) : Prop where
  text_eq : c.text = s
  leftmost : p.IsLeftmost c b.keyword
  start_lt : b.keyword.start.offset < b.keyword.stop.offset
  keyword_le : b.keyword.stop.offset ≤ b.stop.offset
  stop_le : b.stop.offset ≤ (bytes s).length
  start_boundary : IsBoundary s b.keyword.start.offset
  keyword_boundary : IsBoundary s b.keyword.stop.offset
  stop_boundary : IsBoundary s b.stop.offset
  braces : IsBodyless (bytes s) b ∨ ∃ i j, IsBraced s b i j

/-! ### Blanks -/

theorem isAscii_of_isAsciiBlank {x : Char} (h : isAsciiBlank x = true) : x.toNat < 0x80 := by
  simp only [isAsciiBlank, Bool.or_eq_true, decide_eq_true_eq] at h
  rcases h with (((rfl | rfl) | rfl) | rfl) | rfl <;> decide

theorem isBlankByte_asciiByte {x : Char} (hx : x.toNat < 0x80) :
    isBlankByte (asciiByte x) = isAsciiBlank x := by
  have hbyte : ∀ y : Char, y.toNat < 0x80 →
      (decide (asciiByte x = asciiByte y) = decide (x = y)) := by
    intro y hy
    rw [decide_eq_decide]
    exact asciiByte_inj hx hy
  have h1 := hbyte ' ' (by decide)
  have h2 := hbyte '\t' (by decide)
  have h3 := hbyte '\n' (by decide)
  have h4 := hbyte '\x0c' (by decide)
  have h5 := hbyte '\r' (by decide)
  rw [isAsciiBlank, ← h1, ← h2, ← h3, ← h4, ← h5]
  rfl

theorem isBlankByte_of_le {b : UInt8} (h : 0x80 ≤ b.toNat) : isBlankByte b = false := by
  simp only [isBlankByte, Bool.or_eq_false_iff, decide_eq_false_iff_not]
  refine ⟨⟨⟨⟨?_, ?_⟩, ?_⟩, ?_⟩, ?_⟩ <;>
  · rintro rfl
    exact absurd h (by decide)

/-- Between a place and the first one that is not blank stand blank bytes. -/
theorem blank_between (c : Cursor) : ∀ j, c.offset ≤ j → j < (c.skipWhile isAsciiBlank).offset →
    ∃ x, (bytes c.text)[j]? = some x ∧ isBlankByte x := by
  intro j hj hlt
  obtain ⟨x, hx, hget⟩ := exists_of_getElem?_slice (Cursor.le_skipWhile isAsciiBlank c)
    (fun x => isAscii_of_isAsciiBlank) (fun x hx => Cursor.of_mem_upTo_skipWhile hx) hj hlt
  refine ⟨asciiByte x, hget, ?_⟩
  rw [isBlankByte_asciiByte (isAscii_of_isAsciiBlank hx)]
  exact hx

/-- Where no brace opens behind blanks, the first byte that is not blank is none of `{`. -/
theorem not_open_of_rest_ne {c : Cursor}
    (h : ∀ rest, (c.skipWhile isAsciiBlank).rest ≠ '{' :: rest) {b : UInt8}
    (hb : (bytes c.text)[(c.skipWhile isAsciiBlank).offset]? = some b) :
    isBlankByte b = false ∧ b ≠ openByte := by
  rw [Cursor.text_eq_of_le (Cursor.le_skipWhile isAsciiBlank c)] at hb
  rcases hrest : (c.skipWhile isAsciiBlank).rest with _ | ⟨x, rest⟩
  · have hget := getElem?_bytes_add (c.skipWhile isAsciiBlank) 0
    rw [Nat.add_zero, hb, hrest] at hget
    simp at hget
  · by_cases hx : x.toNat < 0x80
    · rw [getElem?_bytes_offset hrest hx] at hb
      obtain rfl := Option.some.inj hb
      rw [isBlankByte_asciiByte hx]
      refine ⟨Cursor.not_of_rest_skipWhile hrest, ?_⟩
      intro heq
      obtain rfl := (asciiByte_inj hx (by decide)).mp heq
      exact h rest hrest
    · have hle := le_of_getElem?_bytes_offset hrest (Nat.not_lt.mp hx) hb
      refine ⟨isBlankByte_of_le hle, ?_⟩
      rintro rfl
      exact absurd hle (by decide)

/-! ### The depth at every byte -/

/-- From an opening brace on, the bytes up to any one in front of the closing brace hold more
opening braces than closing ones. -/
theorem count_lt_of_lt_closing {pre body post : List Char} (hbody : Balanced body) {k : Nat}
    (hk : k < (bytes body).length + 1) :
    (slice (bytes (pre ++ '{' :: (body ++ '}' :: post))) (bytes pre).length
      ((bytes pre).length + k + 1)).count closeByte <
    (slice (bytes (pre ++ '{' :: (body ++ '}' :: post))) (bytes pre).length
      ((bytes pre).length + k + 1)).count openByte := by
  have hslice : slice (bytes (pre ++ '{' :: (body ++ '}' :: post))) (bytes pre).length
      ((bytes pre).length + k + 1) = openByte :: (bytes body).take k := by
    rw [slice, bytes_append, Nat.add_assoc, List.take_length_add_append, List.drop_left, bytes_cons,
      utf8EncodeChar_of_ascii (by decide), List.singleton_append, List.take_succ_cons, bytes_append,
      List.take_append_of_le_length (by omega)]
    rfl
  obtain ⟨p, hp, hcount⟩ := exists_prefix_count_take body k
  have hwithin := hbody.1 p hp
  rw [hslice, List.count_cons_self, List.count_cons_of_ne (by decide), openByte, closeByte,
    hcount '{' (by decide), hcount '}' (by decide)]
  omega

/-- Up to and including the closing brace the two braces occur equally often. -/
theorem count_eq_at_closing {pre body post : List Char} (hbody : Balanced body) :
    (slice (bytes (pre ++ '{' :: (body ++ '}' :: post))) (bytes pre).length
      ((bytes pre).length + ((bytes body).length + 1) + 1)).count openByte =
    (slice (bytes (pre ++ '{' :: (body ++ '}' :: post))) (bytes pre).length
      ((bytes pre).length + ((bytes body).length + 1) + 1)).count closeByte := by
  have hslice : slice (bytes (pre ++ '{' :: (body ++ '}' :: post))) (bytes pre).length
      ((bytes pre).length + ((bytes body).length + 1) + 1) =
        bytes ('{' :: (body ++ ['}'])) := by
    have hlen : (bytes pre).length + ((bytes body).length + 1) + 1 =
        (bytes pre).length + (bytes ('{' :: (body ++ ['}']))).length := by
      simp only [bytes_cons, bytes_append, bytes_nil, List.append_nil, List.length_append,
        utf8EncodeChar_of_ascii (show '{'.toNat < 0x80 by decide),
        utf8EncodeChar_of_ascii (show '}'.toNat < 0x80 by decide), List.length_singleton]
      omega
    have hsplit : '{' :: (body ++ '}' :: post) = '{' :: (body ++ ['}']) ++ post := by simp
    rw [hlen, slice, hsplit, bytes_append, bytes_append, List.take_length_add_append, List.drop_left,
      List.take_left]
  rw [hslice, openByte, closeByte, count_bytes (by decide), count_bytes (by decide)]
  have := hbody.2
  simp only [List.count_cons, List.count_append, List.count_nil]
  simp only [beq_self_eq_true, reduceIte, show ('{' == '}') = false by decide,
    show ('}' == '{') = false by decide, Bool.false_eq_true]
  omega

/-! ### Where the braces are -/

section Around

variable (pre body post : List Char)

theorem offset_opening : (Braces.around pre body post).opening.offset = (bytes pre).length := by
  simp [Braces.around]

theorem offset_inside : (Braces.around pre body post).inside.offset = (bytes pre).length + 1 := by
  have hone : byteLength ['{'] = 1 := by decide
  simp only [Braces.around, Cursor.offset_between, byteLength_append, hone, length_bytes]

theorem offset_closing :
    (Braces.around pre body post).closing.offset =
      (bytes pre).length + ((bytes body).length + 1) := by
  have hone : byteLength ['{'] = 1 := by decide
  simp only [Braces.around, Cursor.offset_between, byteLength_append, hone, length_bytes]
  omega

theorem offset_outside :
    (Braces.around pre body post).outside.offset =
      (bytes pre).length + ((bytes body).length + 1) + 1 := by
  have hone : byteLength ['{'] = 1 := by decide
  have hone' : byteLength ['}'] = 1 := by decide
  simp only [Braces.around, Cursor.offset_between, byteLength_append, hone, hone', length_bytes]
  omega

end Around

/-! ### Reported blocks -/

theorem isBodyless_of_braces_none {b : Block} (hb : b.braces = none)
    (h : bracesAt b.keyword.stop = .ok none) (hle : b.keyword.start ≤ b.keyword.stop) :
    IsBodyless (bytes b.keyword.stop.text) b where
  body_eq := by rw [Block.body?, hb, Option.map_none]
  bodySpan_eq := by rw [Block.bodySpan?, Block.body?, hb, Option.map_none, Option.map_none]
  stop_eq := by rw [Block.stop, hb]
  header_eq := by
    rw [Block.header, hb, ← Cursor.text_eq_of_le hle, slice_bytes hle]
  not_open := by
    refine ⟨(b.keyword.stop.skipWhile isAsciiBlank).offset,
      Cursor.offset_le_of_le (Cursor.le_skipWhile _ _), blank_between _, ?_⟩
    intro x hx
    exact not_open_of_rest_ne (bracesAt_eq_none_iff.mp h) hx

theorem isBraced_of_braces {b : Block} {braces : Braces} (hb : b.braces = some braces)
    (h : bracesAt b.keyword.stop = .ok (some braces)) (hle : b.keyword.start ≤ b.keyword.stop) :
    ∃ i j, IsBraced b.keyword.stop.text b i j := by
  have hskip := Braces.le_opening h
  obtain ⟨pre, body, post, hbody, rfl, hopen⟩ := bracesAt_eq_some h
  obtain ⟨hle1, hle2, hle3⟩ := Braces.around_le pre body post
  have htext : b.keyword.stop.text = pre ++ '{' :: (body ++ '}' :: post) := by
    rw [Cursor.text_eq_of_le hskip]
    simp [Braces.around]
  have hi := offset_opening pre body post
  have hin := offset_inside pre body post
  have hj := offset_closing pre body post
  have hstop : b.stop.offset = (bytes pre).length + ((bytes body).length + 1) + 1 := by
    rw [Block.stop_of_around hb]
    exact offset_outside pre body post
  refine ⟨(bytes pre).length, (bytes pre).length + ((bytes body).length + 1), ?_⟩
  constructor
  case open_lt_close => omega
  case keyword_le => exact hi ▸ Cursor.offset_le_of_le hskip
  case blank =>
    have hblank := blank_between b.keyword.stop
    rw [hopen] at hblank
    rw [← hi]
    exact hblank
  case open_eq =>
    have hget := getElem?_bytes_offset
      (show (Braces.around pre body post).opening.rest = '{' :: (body ++ '}' :: post) from rfl)
      (by decide)
    rw [hi] at hget
    rw [Cursor.text_eq_of_le hskip]
    exact hget
  case close_eq =>
    have hget := getElem?_bytes_offset
      (show (Braces.around pre body post).closing.rest = '}' :: post from rfl) (by decide)
    rw [hj] at hget
    rw [Cursor.text_eq_of_le (hskip.trans (hle1.trans hle2))]
    exact hget
  -- inside the braces more of them have been opened than closed, and at the end as many
  case depth_pos =>
    intro k hk hkj
    obtain ⟨d, rfl⟩ := Nat.exists_eq_add_of_le hk
    rw [htext]
    exact count_lt_of_lt_closing hbody (by omega)
  case close_least =>
    rw [htext]
    refine ⟨⟨by omega, count_eq_at_closing hbody⟩, ?_⟩
    rintro k ⟨hk, hcount⟩
    by_contra hlt
    obtain ⟨d, rfl⟩ := Nat.exists_eq_add_of_le hk.le
    have := @count_lt_of_lt_closing pre body post hbody d (by omega)
    omega
  case stop_eq => exact hstop
  case header_eq =>
    rw [Block.header, hb]
    dsimp only
    rw [← hi, ← slice_bytes (hle.trans hskip), Cursor.text_eq_of_le hle]
  case body_eq =>
    have hslice := slice_bytes hle2
    rw [hin, hj] at hslice
    rw [Block.body?_of_around hb, Option.map_some, Cursor.text_eq_of_le (hskip.trans hle1), hslice]
    exact congrArg (some ∘ bytes) (Cursor.upTo_between (pre ++ ['{']) body ('}' :: post)).symm
  case bodySpan_eq =>
    rw [Block.bodySpan?_of_around hb, ← hin, ← hj]
    simp [Braces.around]
  case open_boundary =>
    rw [← hi, Cursor.text_eq_of_le hskip]
    exact isBoundary_offset _
  case inside_boundary =>
    rw [← hin, Cursor.text_eq_of_le (hskip.trans hle1)]
    exact isBoundary_offset _
  case close_boundary =>
    rw [← hj, Cursor.text_eq_of_le (hskip.trans (hle1.trans hle2))]
    exact isBoundary_offset _

/-- A block of which the keyword is the leftmost match and the braces are those behind it. -/
theorem isMatched_of_next {p : Pattern} {c : Cursor} {b : Block} (hm : p.IsLeftmost c b.keyword)
    (hlt : b.keyword.start < b.keyword.stop) (hb : bracesAt b.keyword.stop = .ok b.braces) :
    IsMatched p c.text c b := by
  have hstart := Cursor.text_eq_of_le hm.le_start
  have hkey := hstart.trans (Cursor.text_eq_of_le hlt.le)
  have hle := Block.keyword_stop_le hb
  have hstop := hkey.trans (Cursor.text_eq_of_le hle)
  refine ⟨rfl, hm, Cursor.offset_lt_of_lt hlt, Cursor.offset_le_of_le hle, ?_, ?_, ?_, ?_, ?_⟩
  · rw [length_bytes, hstop]
    exact Cursor.offset_le_byteLength_text _
  · rw [hstart]
    exact isBoundary_offset _
  · rw [hkey]
    exact isBoundary_offset _
  · rw [hstop]
    exact isBoundary_offset _
  · rw [hkey]
    rcases hbr : b.braces with _ | braces
    · rw [hbr] at hb
      exact Or.inl (isBodyless_of_braces_none hbr hb hlt.le)
    · rw [hbr] at hb
      exact Or.inr (isBraced_of_braces hbr hb hlt.le)

namespace Scanner

/-- **Every block that a scan reports is the brace-matched block of its keyword**: whatever the
pattern, the text and the number of calls before, the call started from some place of the text, the
keyword is the leftmost match from there, and the bytes behind it are as `IsMatched` says. -/
theorem next_block_spec (p : Pattern) (resume : Resume) (fileId : Nat) (text : List Char) (n : Nat)
    (b : Block) (h : (ofText p resume fileId text).answer n = some (.ok b)) :
    ∃ c, ((ofText p resume fileId text).after n).cursor = some c ∧ IsMatched p text c b := by
  rcases hnext : ((ofText p resume fileId text).after n).next with ⟨r, s'⟩
  rw [answer, hnext] at h
  obtain rfl : r = some (.ok b) := h
  obtain ⟨c, hc, hm, hlt, hb, -⟩ := next_eq_ok hnext
  obtain ⟨hp, hcursor⟩ := (ofText p resume fileId text).after_frame n
  obtain ⟨d, hd, hdc⟩ := hcursor c hc
  obtain rfl : Cursor.atStart text = d := Option.some.inj hd
  have htext : c.text = text := (Cursor.text_eq_of_le hdc).symm
  rw [hp] at hm
  have hmatched := isMatched_of_next hm hlt hb
  rw [htext] at hmatched
  exact ⟨c, hc, hmatched⟩

/-- The second block of a scan is inside the first, behind a character of two bytes. -/
theorem next_block_nested :
    let text := "class \x7bé class \x7b\x7b\x7d\x7d \x7d".toList
    let b : Block :=
      { keyword := ⟨Cursor.between "class \x7bé ".toList "class \x7b\x7b\x7d\x7d \x7d".toList,
          Cursor.between "class \x7bé class".toList " \x7b\x7b\x7d\x7d \x7d".toList, []⟩
        braces := some (Braces.around "class \x7bé class ".toList "\x7b\x7d".toList " \x7d".toList) }
    (ofText (.lit "class") .afterKeyword 0 text).answer 1 = some (.ok b) ∧
      ∃ c, ((ofText (.lit "class") .afterKeyword 0 text).after 1).cursor = some c ∧
        IsMatched (.lit "class") text c b :=
  ⟨by decide +kernel, next_block_spec (.lit "class") .afterKeyword 0 _ 1 _ (by decide +kernel)⟩

end Scanner
end HeaderSurvey
