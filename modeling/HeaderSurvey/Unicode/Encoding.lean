import HeaderSurvey.Unicode.Range

/-!
# Encodings of sets of code points

The bytes of the characters of a set in UTF-8, as rows of byte ranges: the characters of a row are
written with a byte of its first range, then one of its second, and so on. The rows of a set are as
few as possible and stand in increasing order.
-/

namespace HeaderSurvey.Unicode

/-- The texts of as many bytes as there are ranges, each byte in its range. -/
abbrev ByteRow := List Range

/-- The code points that are written in so many bytes behind the first one, which is at least
`lead`. -/
structure EncodingForm where
  lead : Nat
  more : Nat
  first : Nat
  last : Nat

/-- The encodings of one byte to those of four. -/
def encodingForms : List EncodingForm :=
  [⟨0, 0, 0, 0x7F⟩, ⟨0xC0, 1, 0x80, 0x7FF⟩, ⟨0xE0, 2, 0x800, 0xFFFF⟩, ⟨0xF0, 3, 0x10000, 0x10FFFF⟩]

/-- The rows of the numbers from `first` to `last`, written in digits of six bits: the first digit
on top of `lead`, and `more` digits on top of `0x80`. What shares its first digit with numbers
outside stands in rows of its own, at both ends. -/
def byteRows (lead : Nat) : (more : Nat) → (first last : Nat) → List ByteRow
  | 0, first, last => [[(lead + first, lead + last)]]
  | more + 1, first, last =>
    let unit := 64 ^ (more + 1)
    let low := first / unit
    let high := last / unit
    let under (digit first last : Nat) : List ByteRow :=
      (byteRows 0x80 more first last).map ((lead + digit, lead + digit) :: ·)
    if low = high then under low (first % unit) (last % unit)
    else
      let startsWhole := first % unit = 0
      let endsWhole := last % unit = unit - 1
      let head := if startsWhole then [] else under low (first % unit) (unit - 1)
      let tail := if endsWhole then [] else under high 0 (last % unit)
      let wholeLow := if startsWhole then low else low + 1
      let wholeHigh := if endsWhole then high else high - 1
      let whole :=
        if wholeLow ≤ wholeHigh then
          [(lead + wholeLow, lead + wholeHigh) :: List.replicate (more + 1) (0x80, 0xBF)]
        else []
      head ++ whole ++ tail

/-- The rows of a range of code points that are written in one form. -/
def EncodingForm.rows (f : EncodingForm) (r : Range) : List ByteRow :=
  let first := Nat.max r.1 f.first
  let last := Nat.min r.2 f.last
  if first ≤ last then byteRows f.lead f.more first last else []

/-- The rows of the characters of a set. -/
def encodings (ranges : List Range) : List ByteRow :=
  ranges.flatMap fun r => encodingForms.flatMap (·.rows r)

/-- The length of the encoding of a code point. -/
def encodedLength (c : Nat) : Nat :=
  if c < 0x80 then 1 else if c < 0x800 then 2 else if c < 0x10000 then 3 else 4

end HeaderSurvey.Unicode
