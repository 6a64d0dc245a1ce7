import HeaderSurvey.Search.Expr
import HeaderSurvey.Unicode.Encoding

/-!
# Expressions put together

Rows, choices and repetitions in their simplest form. Nothing is left of what stands for no
character in a row, a choice between single characters is a set, and a choice whose pieces all begin
alike is made behind what they have in common. The form decides how large a machine for a pattern
is, and not what the pattern finds.
-/

namespace HeaderSurvey.Search

/-! ### Lengths -/

/-- Sums of lengths, where one may be unknown. -/
def addLengths : Option Nat → Option Nat → Option Nat
  | some a, some b => some (a + b)
  | _, _ => none

namespace Expr

/-- The fewest bytes that a piece takes, if there is any. -/
def minLength : Expr → Option Nat
  | empty => some 0
  | one ranges => ranges.head?.map fun r => Unicode.encodedLength r.1
  | look _ => some 0
  | group body => body.minLength
  | seq first second => addLengths first.minLength second.minLength
  | either first second =>
    match first.minLength, second.minLength with
    | some a, some b => some (Nat.min a b)
    | _, _ => none
  | repeated least _ body => body.minLength.map (least * ·)

/-- The most bytes that a piece takes, if there is any and if there is a bound. -/
def maxLength : Expr → Option Nat
  | empty => some 0
  | one ranges => ranges.getLast?.map fun r => Unicode.encodedLength r.2
  | look _ => some 0
  | group body => body.maxLength
  | seq first second => addLengths first.maxLength second.maxLength
  | either first second =>
    match first.maxLength, second.maxLength with
    | some a, some b => some (Nat.max a b)
    | _, _ => none
  | repeated _ most body =>
    match most, body.maxLength with
    | some most, some n => some (most * n)
    | _, _ => none

/-! ### Single characters -/

/-- Whether the expression stands for one character and no other. -/
def isLetter : Expr → Bool
  | one [(first, last)] => first = last
  | _ => false

/-- The set of characters that the expression stands for, if it is no row. -/
def set? : Expr → Option (List Unicode.Range)
  | one ranges => some ranges
  | _ => none

/-- Whether a group is remembered in the expression. -/
def hasGroup : Expr → Bool
  | group _ => true
  | seq first second => first.hasGroup || second.hasGroup
  | either first second => first.hasGroup || second.hasGroup
  | repeated _ _ body => body.hasGroup
  | _ => false

/-! ### Rows -/

/-- What stands in a row, without what stands for no character. -/
def pieces : Expr → List Expr
  | empty => []
  | seq first second => first.pieces ++ second.pieces
  | e => [e]

/-- Some pieces in a row. -/
def ofPieces : List Expr → Expr
  | [] => empty
  | [e] => e
  | e :: es => seq e (ofPieces es)

/-- Some expressions in a row. -/
def inRow (es : List Expr) : Expr :=
  ofPieces (es.flatMap pieces)

/-- What stands in a row, with letters side by side kept together. -/
def words (e : Expr) : List (List Expr) :=
  e.pieces.splitBy fun a b => a.isLetter && b.isLetter

/-! ### Choices -/

/-- What there is to choose from. -/
def alternatives : Expr → List Expr
  | either first second => first.alternatives ++ second.alternatives
  | e => [e]

/-- A choice between some expressions. -/
def ofAlternatives : List Expr → Expr
  | [] => one []
  | [e] => e
  | e :: es => either e (ofAlternatives es)

/-- A choice between expressions that are no choices, which is one set where all of them are letters
or all of them are sets. -/
def choiceOf (es : List Expr) : Expr :=
  let sets := es.filterMap set?
  let letters := es.filter isLetter
  if 2 ≤ es.length ∧ sets.length = es.length ∧
      (letters.isEmpty ∨ letters.length = es.length) then
    one (Unicode.collect sets.flatten)
  else ofAlternatives es

/-- What two rows have in common at their start. Groups have nothing in common. -/
def commonStart : List (List Expr) → List (List Expr) → List (List Expr)
  | a :: as, b :: bs => if a = b ∧ !a.any hasGroup then a :: commonStart as bs else []
  | _, _ => []

/-- A choice between some expressions. What they all begin with stands in front of it, if each of
them goes on. -/
def choice (es : List Expr) : Expr :=
  let es := es.flatMap alternatives
  let rows := es.map words
  match choiceOf es, rows with
  | either a b, row :: rows =>
    let start := rows.foldl commonStart row
    if start.isEmpty || (row :: rows).any (·.length < 2) then either a b
    else
      let rests := (row :: rows).map fun row => ofPieces (row.drop start.length).flatten
      inRow (start.flatten ++ [choiceOf (rests.flatMap alternatives)])
  | e, _ => e

/-! ### Repetitions -/

/-- So many pieces in a row. More than one round of what takes no character is as good as one. -/
def rounds (least : Nat) (most : Option Nat) (body : Expr) : Expr :=
  let isEmpty := body.maxLength = some 0
  let least := if isEmpty then Nat.min least 1 else least
  let most := if isEmpty then some ((most.map (Nat.min 1)).getD 1) else most
  if least = 0 ∧ most = some 0 then empty
  else if least = 1 ∧ most = some 1 then body
  else repeated least most body

end Expr
end HeaderSurvey.Search
