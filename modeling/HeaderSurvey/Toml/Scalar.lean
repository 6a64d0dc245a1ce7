import HeaderSurvey.Decimal.Binary64
import HeaderSurvey.Text.Digits
import HeaderSurvey.Toml.Item

/-!
# Numbers, truth values and dates

The values that are written as a run of letters, digits and signs. A run is read as a whole: it is a
truth value, a date or time, a number with a point or exponent, or an integer, or it is nothing.
-/

namespace HeaderSurvey.Toml

open Text (isDigitOf ofDigits)

/-! ### Digits -/

/-- The digits of a run in which an underscore may stand between two digits. -/
def ungroup (base : Nat) : List Char → Option (List Char)
  | [] => none
  | [c] => if isDigitOf base c then some [c] else none
  | c :: '_' :: cs => if isDigitOf base c then (ungroup base cs).map (c :: ·) else none
  | c :: cs => if isDigitOf base c then (ungroup base cs).map (c :: ·) else none

/-- The digits of a run in base ten without a needless zero in front. -/
def ungroupPlain (cs : List Char) : Option (List Char) :=
  match ungroup 10 cs with
  | some ('0' :: _ :: _) => none
  | digits => digits

/-- Whether a sign in front says minus, and what follows it. -/
def splitSign : List Char → Bool × List Char
  | '-' :: cs => (true, cs)
  | '+' :: cs => (false, cs)
  | cs => (false, cs)

/-! ### Numbers -/

/-- The integer, if it fits in 64 bits with a sign. -/
def fitting? (n : Int) : Option Int :=
  if -9223372036854775808 ≤ n ∧ n ≤ 9223372036854775807 then some n else none

/-- The integer that a run denotes. -/
def integer? : List Char → Option Int
  | '0' :: 'x' :: cs => do fitting? (ofDigits 16 (← ungroup 16 cs))
  | '0' :: 'o' :: cs => do fitting? (ofDigits 8 (← ungroup 8 cs))
  | '0' :: 'b' :: cs => do fitting? (ofDigits 2 (← ungroup 2 cs))
  | cs => do
    let (negative, cs) := splitSign cs
    let n : Int := ofDigits 10 (← ungroupPlain cs)
    fitting? (if negative then -n else n)

/-- The exponent that a run denotes. -/
def exponent? (cs : List Char) : Option Int := do
  let (negative, cs) := splitSign cs
  let n : Int := ofDigits 10 (← ungroup 10 cs)
  return if negative then -n else n

/-- The number with a point, an exponent or no value that a run denotes. Of those too large for
double precision the negative ones are infinite, and the others are none. -/
def float? (cs : List Char) : Option FloatValue := do
  let (negative, cs) := splitSign cs
  if cs = ['i', 'n', 'f'] then return .infinite negative
  if cs = ['n', 'a', 'n'] then return .notANumber
  let isE (c : Char) : Bool := c = 'e' || c = 'E'
  let number := cs.takeWhile (!isE ·)
  let whole ← ungroupPlain (number.takeWhile (· ≠ '.'))
  let places ←
    match number.dropWhile (· ≠ '.') with
    | [] => some []
    | _ :: places => ungroup 10 places
  let exponent ←
    match cs.dropWhile (!isE ·) with
    | [] => if places.isEmpty then none else some 0
    | _ :: cs => exponent? cs
  let digits := ofDigits 10 (whole ++ places)
  let exponent := exponent - places.length
  match Binary64.nearest? digits exponent with
  | some _ => return .finite negative digits exponent
  | none => if negative then return .infinite true else none

/-! ### Dates and times -/

/-- The number of two digits in front, and what follows. -/
def twoDigits : List Char → Option (Nat × List Char)
  | a :: b :: cs =>
    if isAsciiDigit a ∧ isAsciiDigit b then some (ofDigits 10 [a, b], cs) else none
  | _ => none

/-- How many days a month has. -/
def daysIn (year month : Nat) : Nat :=
  if month = 2 then
    if year % 4 = 0 ∧ (year % 100 ≠ 0 ∨ year % 400 = 0) then 29 else 28
  else if month = 4 ∨ month = 6 ∨ month = 9 ∨ month = 11 then 30
  else 31

/-- What follows a date. -/
def afterDate? (cs : List Char) : Option (List Char) := do
  let (century, cs) ← twoDigits cs
  let (year, cs) ← twoDigits cs
  let (month, cs) ← twoDigits (← Text.dropStart? ['-'] cs)
  let (day, cs) ← twoDigits (← Text.dropStart? ['-'] cs)
  if 1 ≤ month ∧ month ≤ 12 ∧ 1 ≤ day ∧ day ≤ daysIn (century * 100 + year) month then some cs
  else none

/-- What follows hours and minutes. -/
def afterMinutes? (cs : List Char) : Option (List Char) := do
  let (hour, cs) ← twoDigits cs
  let (minute, cs) ← twoDigits (← Text.dropStart? [':'] cs)
  if hour ≤ 23 ∧ minute ≤ 59 then some cs else none

/-- What follows a time. -/
def afterTime? (cs : List Char) : Option (List Char) := do
  let (second, cs) ← twoDigits (← Text.dropStart? [':'] (← afterMinutes? cs))
  if 60 < second then none
  match cs with
  | '.' :: c :: cs => if isAsciiDigit c then some (cs.dropWhile isAsciiDigit) else none
  | ['.'] => none
  | cs => some cs

/-- Whether the characters are a distance from universal time, or nothing. -/
def isOffset : List Char → Bool
  | [] => true
  | c :: cs =>
    ((c = 'Z' || c = 'z') && cs.isEmpty) || ((c = '+' || c = '-') && afterMinutes? cs = some [])

/-- Whether a run is a date. -/
def isDate (cs : List Char) : Bool :=
  afterDate? cs = some []

/-- Whether a run is a date, a time or both. -/
def isDateOrTime (cs : List Char) : Bool :=
  match afterDate? cs with
  | some [] => true
  | some (c :: cs) =>
    (c = 'T' || c = 't' || c = ' ') &&
      match afterTime? cs with
      | some cs => isOffset cs
      | none => false
  | none => afterTime? cs = some []

/-! ### All of them -/

/-- Whether a character can be part of a number, a truth value or a date. -/
def isScalarChar (c : Char) : Bool :=
  isAsciiLetter c || isAsciiDigit c || c = '+' || c = '-' || c = '_' || c = '.' || c = ':'

/-- The value that a run denotes. -/
def scalar? (e : Extent) (cs : List Char) : Option Item :=
  if cs = "true".toList then some (.boolean e true)
  else if cs = "false".toList then some (.boolean e false)
  else if isDateOrTime cs then some (.date e)
  else
    match float? cs with
    | some x => some (.float e x)
    | none => (integer? cs).map (.integer e)

end HeaderSurvey.Toml
