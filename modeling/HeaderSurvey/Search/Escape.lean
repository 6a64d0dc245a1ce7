import HeaderSurvey.Search.Reader

/-!
# Escapes in a search pattern

What a backslash and the characters behind it stand for: a character by itself or by its number, a
class of characters by its name, or an anchor. The characters of ASCII that are neither letters nor
digits stand for themselves; the angle brackets are anchors at words.
-/

namespace HeaderSurvey.Search

namespace Reader

/-! ### Characters by number -/

/-- The character with a number, unless there is none. -/
def charOf? (n : Nat) : Option Char :=
  if n.isValidChar then some (Char.ofNat n) else none

/-- So many hexadecimal digits. -/
def hexDigits : (count : Nat) → Reader (List Char)
  | 0 => return []
  | count + 1 => do
    match ← peek with
    | none => failHere .escapeUnfinished
    | some c =>
      if Text.isDigitOf 16 c then
        next
        return c :: (← hexDigits count)
      else failNext .hexDigitInvalid

/-- A character by a fixed count of digits, behind an escape that begins at `start`. -/
def hexFixed (start : Cursor) (count : Nat) : Reader Letter := do
  let first ← here
  let digits ← hexDigits count
  match charOf? (Text.ofDigits 16 digits) with
  | some c => return ⟨⟨start, ← here⟩, c, count = 2⟩
  | none => failFrom .hexNoCharacter first

/-- A character by digits between braces, behind an escape that begins at `start`. -/
def hexBraced (start : Cursor) : Reader Letter := do
  let brace ← here
  next
  let digits ← run (Text.isDigitOf 16) next
  let stop ← here
  match ← peek with
  | none => failFrom .escapeUnfinished brace
  | some '}' =>
    next
    if digits.isEmpty then failFrom .hexEmpty brace
    match charOf? (Text.ofDigits 16 digits) with
    | some c => return ⟨⟨start, ← here⟩, c, false⟩
    | none => fail .hexNoCharacter (behind brace) stop
  | some _ => failNext .hexDigitInvalid

/-- A character by its number, behind an escape that begins at `start`; so many digits where no
brace stands. -/
def hexLetter (start : Cursor) (count : Nat) : Reader Letter := do
  next
  match ← peek with
  | none => failHere .escapeUnfinished
  | some '{' => hexBraced start
  | some _ => hexFixed start count

/-! ### Classes by name -/

/-- What stands before and after the first of a sign in a text. -/
def divideAt (sign : List Char) : List Char → Option (List Char × List Char)
  | [] => none
  | c :: text =>
    match Text.dropStart? sign (c :: text) with
    | some value => some ([], value)
    | none => (divideAt sign text).map fun (before, value) => (c :: before, value)

/-- The property that a text between braces names, and perhaps its value; and whether the characters
without it are meant. The first sign that says "not equal" divides the text, or else the first
colon, or else the first equals sign. -/
def propertyOf (text : List Char) : NamedClass × Bool :=
  match divideAt ['!', '='] text, divideAt [':'] text, divideAt ['='] text with
  | some (name, value), _, _ => (.propertyValue name value, true)
  | _, some (name, value), _ => (.propertyValue name value, false)
  | _, _, some (name, value) => (.propertyValue name value, false)
  | _, _, _ => (.property text, false)

/-- A property by its name, behind an escape that begins at `start`. A sign that says "not equal"
turns a negation round. -/
def propertyClass (start : Cursor) (negated : Bool) : Reader ClassName := do
  next
  match ← peek with
  | none => failHere .escapeUnfinished
  | some '{' =>
    next
    let text ← run (· ≠ '}') next
    needNext .escapeUnfinished (← here)
    take
    let (named, differs) := propertyOf text
    return ⟨⟨start, ← here⟩, negated != differs, named⟩
  | some '\\' => failNext .propertyInvalid
  | some c =>
    next
    return ⟨⟨start, ← here⟩, negated, .property [c]⟩

/-! ### Anchors at words -/

/-- What a name between braces asks of a place. -/
def edgeNamed? (name : List Char) : Option WordEdge :=
  match String.ofList name with
  | "start" => some .wordStart
  | "end" => some .wordEnd
  | "start-half" => some .noWordBefore
  | "end-half" => some .noWordAfter
  | _ => none

/-- Whether a character can stand in the name of an edge. -/
def isEdgeNameChar (c : Char) : Bool :=
  isAsciiLetter c || c = '-'

/-- The edge that is named between braces, behind an escape that begins at `start`. A brace with no
name begins a repetition and is left alone. -/
def namedEdge? (start : Cursor) : Reader (Option WordEdge) := do
  let brace ← here
  next
  match ← peek with
  | none => failFrom .edgeOrCountUnfinished start
  | some c =>
    if isEdgeNameChar c then
      let first ← here
      let name ← run isEdgeNameChar next
      if (← peek) ≠ some '}' then failFrom .edgeUnclosed brace
      match edgeNamed? name with
      | some edge => take; return some edge
      | none => failFrom .edgeUnknown first
    else
      moveTo brace
      return none

/-- The edge of words, plain or with a name. -/
def wordEdge (start : Cursor) : Reader Term := do
  let plain : Extent := ⟨start, ← here⟩
  if (← peek) = some '{' then
    match ← namedEdge? start with
    | some edge => return .anchor ⟨start, ← here⟩ (.edge edge)
    | none => return .anchor plain (.edge .boundary)
  else return .anchor plain (.edge .boundary)

/-! ### Escapes -/

/-- Whether a character stands for itself behind a backslash. -/
def isEscapable (c : Char) : Bool :=
  c.val < 128 && !(isAsciiLetter c || isAsciiDigit c || c = '<' || c = '>')

/-- The control that a letter stands for. -/
def controlOf? : Char → Option Char
  | 'a' => some '\x07'
  | 'f' => some '\x0c'
  | 't' => some '\t'
  | 'n' => some '\n'
  | 'r' => some '\r'
  | 'v' => some '\x0b'
  | _ => none

/-- The class that a letter stands for. A capital stands for the characters outside it. -/
def classOf? : Char → Option (NamedClass × Bool)
  | 'd' => some (.digit, false)
  | 's' => some (.blank, false)
  | 'w' => some (.word, false)
  | 'D' => some (.digit, true)
  | 'S' => some (.blank, true)
  | 'W' => some (.word, true)
  | _ => none

/-- The anchor that a character stands for. -/
def anchorOf? : Char → Option Anchor
  | 'A' => some .textStart
  | 'z' => some .textEnd
  | 'B' => some (.edge .noBoundary)
  | '<' => some (.edge .wordStart)
  | '>' => some (.edge .wordEnd)
  | _ => none

/-- What an escape of one character stands for. -/
def oneCharEscape (start : Cursor) (c : Char) : Reader Term := do
  take
  let extent : Extent := ⟨start, ← here⟩
  if isEscapable c then return .letter ⟨extent, c, false⟩
  else if c = 'b' then wordEdge start
  else
    match classOf? c, controlOf? c, anchorOf? c with
    | some (named, negated), _, _ => return .named ⟨extent, negated, named⟩
    | _, some control, _ => return .letter ⟨extent, control, false⟩
    | _, _, some a => return .anchor extent a
    | _, _, _ => failFrom .escapeUnknown start

/-- What the backslash ahead and the characters behind it stand for. -/
def escape : Reader Term := do
  let start ← here
  take
  match ← peek with
  | none => failFrom .escapeUnfinished start
  | some 'x' => return .letter (← hexLetter start 2)
  | some 'u' => return .letter (← hexLetter start 4)
  | some 'U' => return .letter (← hexLetter start 8)
  | some 'p' => return .named (← propertyClass start false)
  | some 'P' => return .named (← propertyClass start true)
  | some c =>
    if isAsciiDigit c then
      take
      failFrom .backreference start
    else oneCharEscape start c

end Reader
end HeaderSurvey.Search
