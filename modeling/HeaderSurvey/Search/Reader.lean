import HeaderSurvey.Search.Fault
import HeaderSurvey.Text.Digits

/-!
# Readers of a search pattern

A reader takes something from the pattern ahead of a cursor and leaves the cursor behind it, or
fails with a fault. Blanks and comments between two characters of a pattern count only while
`skipsBlanks` is off.
-/

namespace HeaderSurvey.Search

/-- How far a pattern has been read. -/
structure Reading where
  cursor : Cursor
  /-- Whether blanks and comments stand for nothing. -/
  skipsBlanks : Bool
  /-- The names of groups so far, with their places. -/
  names : List (List Char × Extent)

/-- Something that can be read from a pattern. -/
abbrev Reader := StateT Reading (Except Fault)

namespace Reader

/-! ### Moving -/

/-- The cursor. -/
def here : Reader Cursor := do
  return (← get).cursor

/-- Puts the cursor elsewhere. -/
def moveTo (c : Cursor) : Reader Unit :=
  modify fun r => { r with cursor := c }

/-- The next character, which is not taken. -/
def peek : Reader (Option Char) := do
  return (← here).rest.head?

/-- The cursor behind the next character, if there is one. -/
def behind (c : Cursor) : Cursor :=
  match c.rest with
  | [] => c
  | x :: rest => ⟨x :: c.before, rest⟩

/-- Takes a character. -/
def take : Reader Unit := do
  moveTo (behind (← here))

/-- The cursor behind the blanks and comments ahead. A comment goes from a number sign to the end of
its line. -/
def behindBlanks (inComment : Bool) (before : List Char) : List Char → Cursor
  | [] => ⟨before, []⟩
  | c :: rest =>
    if inComment then behindBlanks (c ≠ '\n') (c :: before) rest
    else if isBlank c then behindBlanks false (c :: before) rest
    else if c = '#' then behindBlanks true (c :: before) rest
    else ⟨before, c :: rest⟩

/-- Takes the blanks and comments ahead, if they stand for nothing. -/
def blanks : Reader Unit := do
  let r ← get
  if r.skipsBlanks then moveTo (behindBlanks false r.cursor.before r.cursor.rest)

/-- Takes a character and the blanks behind it. -/
def next : Reader Unit := do
  take
  blanks

/-- Takes these characters, if the pattern goes on with them. -/
def takeText (text : String) : Reader Bool := do
  match (← here).skipText? text.toList with
  | some c => moveTo c; return true
  | none => return false

/-! ### Faults -/

/-- Fails with a stretch of the pattern. -/
def fail {α : Type} (cause : Cause) (start stop : Cursor) : Reader α :=
  throw ⟨cause, ⟨start, stop⟩, none⟩

/-- Fails with the stretch from a cursor to here. -/
def failFrom {α : Type} (cause : Cause) (start : Cursor) : Reader α := do
  fail cause start (← here)

/-- Fails in front of the next character. -/
def failHere {α : Type} (cause : Cause) : Reader α := do
  failFrom cause (← here)

/-- Fails with the next character. -/
def failNext {α : Type} (cause : Cause) : Reader α := do
  let c ← here
  fail cause c (behind c)

/-- Fails unless a character is ahead. -/
def needNext (cause : Cause) (start : Cursor) : Reader Unit := do
  if (← peek).isNone then failFrom cause start

/-! ### Runs of characters -/

/-- The characters ahead that satisfy `p`, one for each of the budget at most. -/
def runWithin (p : Char → Bool) (step : Reader Unit) : (budget : List Char) → Reader (List Char)
  | [] => return []
  | _ :: budget => do
    match ← peek with
    | none => return []
    | some c =>
      if p c then
        step
        return c :: (← runWithin p step budget)
      else return []

/-- All characters ahead that satisfy `p`; after each is done what `step` does, which takes it. -/
def run (p : Char → Bool) (step : Reader Unit) : Reader (List Char) := do
  runWithin p step (← here).rest

/-- A decimal number of 32 bits, with blanks around it. The fault of what is no number is given and
not thrown. -/
def decimal : Reader (Except Fault Nat) := do
  let _ ← run isBlank take
  let start ← here
  let digits ← run isAsciiDigit next
  let extent : Extent := ⟨start, ← here⟩
  let _ ← run isBlank next
  let n := Text.ofDigits 10 digits
  if digits.isEmpty then return .error ⟨.countEmpty, extent, none⟩
  else if 4294967295 < n then return .error ⟨.decimalTooLarge, extent, none⟩
  else return .ok n

end Reader
end HeaderSurvey.Search
