/-!
# Texts as bytes

Decoding of UTF-8. A byte that cannot go on with the character before it ends that character as a
malformed piece and is looked at afresh, so that no byte below `0x80` is ever swallowed. Lossy
decoding puts one replacement character in place of each malformed piece.
-/

namespace HeaderSurvey.Utf8

/-- A character of which some bytes, but not all, have been read. -/
structure Begun where
  /-- The bits read so far. -/
  value : Nat
  /-- How many bytes are owed after the next one. -/
  owed : Nat
  /-- The least value that the next byte may have. -/
  low : Nat
  /-- The greatest value that the next byte may have. -/
  high : Nat
  deriving Repr, DecidableEq

/-- What a byte gives where a character begins: perhaps a character, or nothing in place of a
malformed one, and perhaps a character that has begun. -/
def start (b : Nat) : List (Option Char) × Option Begun :=
  if b < 0x80 then ([some (Char.ofNat b)], none)
  else if 0xC2 ≤ b ∧ b ≤ 0xDF then ([], some ⟨b - 0xC0, 0, 0x80, 0xBF⟩)
  else if b = 0xE0 then ([], some ⟨0, 1, 0xA0, 0xBF⟩)
  else if b = 0xED then ([], some ⟨0xD, 1, 0x80, 0x9F⟩)
  else if 0xE1 ≤ b ∧ b ≤ 0xEF then ([], some ⟨b - 0xE0, 1, 0x80, 0xBF⟩)
  else if b = 0xF0 then ([], some ⟨0, 2, 0x90, 0xBF⟩)
  else if 0xF1 ≤ b ∧ b ≤ 0xF3 then ([], some ⟨b - 0xF0, 2, 0x80, 0xBF⟩)
  else if b = 0xF4 then ([], some ⟨4, 2, 0x80, 0x8F⟩)
  else ([none], none)

/-- What a byte gives after a character has begun. -/
def proceed (c : Begun) (b : Nat) : List (Option Char) × Option Begun :=
  if c.low ≤ b ∧ b ≤ c.high then
    let value := c.value * 0x40 + (b - 0x80)
    match c.owed with
    | 0 => ([some (Char.ofNat value)], none)
    | owed + 1 => ([], some ⟨value, owed, 0x80, 0xBF⟩)
  else
    let (cs, begun) := start b
    (none :: cs, begun)

/-- The characters of the bytes after a character may have begun, with nothing in place of each
malformed piece. -/
def decodeFrom (begun : Option Begun) : List UInt8 → List (Option Char)
  | [] => if begun.isSome then [none] else []
  | b :: bs =>
    let (cs, begun) :=
      match begun with
      | none => start b.toNat
      | some c => proceed c b.toNat
    cs ++ decodeFrom begun bs

/-- The characters of the bytes, with nothing in place of each malformed piece. -/
def decode (bytes : List UInt8) : List (Option Char) :=
  decodeFrom none bytes

/-- Whether the bytes are a text. -/
def isValid (bytes : List UInt8) : Bool :=
  (decode bytes).all (·.isSome)

/-- The text of the bytes, with a replacement character for each malformed piece. -/
def decodeLossy (bytes : List UInt8) : String :=
  String.ofList ((decode bytes).map (·.getD '\ufffd'))

/-- The bytes of a text. -/
def encode (text : String) : List UInt8 :=
  text.toList.flatMap String.utf8EncodeChar

end HeaderSurvey.Utf8
