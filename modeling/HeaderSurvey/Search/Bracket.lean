import HeaderSurvey.Search.Escape

/-!
# Brackets in a search pattern

Sets of characters between brackets: characters, ranges, classes by name and further brackets side
by side, and the operations `&&`, `--` and `~~` between them, from left to right. Hyphens, and a
closing bracket where no character stands before it, stand for themselves at the start of a set.
-/

namespace HeaderSurvey.Search

/-- A bracket that is not closed yet. -/
structure OpenBracket where
  start : Cursor
  /-- The bracket with what may stand at its start. -/
  opening : Extent
  negated : Bool
  /-- The set before the last operation, and that operation. -/
  before : Option (CharSet × SetOperation)
  /-- Where the items after the last operation begin. -/
  itemsStart : Cursor
  /-- The items after the last operation, the last first. -/
  items : List CharSet

namespace OpenBracket

/-- The items after the last operation as one set. -/
def lastSet (b : OpenBracket) : CharSet :=
  match b.items.reverse with
  | [] => .empty ⟨b.itemsStart, b.itemsStart⟩
  | [item] => item
  | first :: items =>
    let last := items.getLastD first
    .union ⟨first.extent.start, last.extent.stop⟩ (first :: items)

/-- All that stands in the bracket so far. -/
def inside (b : OpenBracket) : CharSet :=
  let right := b.lastSet
  match b.before with
  | none => right
  | some (left, operation) =>
    .combine ⟨left.extent.start, right.extent.stop⟩ operation left right

/-- Adds an item. -/
def add (item : CharSet) (b : OpenBracket) : OpenBracket :=
  { b with items := item :: b.items }

/-- Goes on behind an operation, at a cursor. -/
def operate (operation : SetOperation) (c : Cursor) (b : OpenBracket) : OpenBracket :=
  { b with before := some (b.inside, operation), itemsStart := c, items := [] }

/-- The closed bracket, whose end is at a cursor. -/
def close (stop : Cursor) (b : OpenBracket) : CharSet :=
  .bracket ⟨b.start, stop⟩ b.negated b.inside

end OpenBracket

namespace Reader

/-! ### The start of a set -/

/-- The hyphens ahead as items, the last first, one for each of the budget at most. -/
def hyphensWithin (bracket : Cursor) : (budget : List Char) → List CharSet → Reader (List CharSet)
  | [], items => return items
  | _ :: budget, items => do
    if (← peek) = some '-' then
      let c ← here
      next
      needNextAt bracket
      hyphensWithin bracket budget (.letter ⟨⟨c, behind c⟩, '-', false⟩ :: items)
    else return items
where
  /-- Fails at the bracket itself where the pattern ends behind a hyphen. -/
  needNextAt (bracket : Cursor) : Reader Unit := do
    if (← peek).isNone then fail .setUnclosed bracket bracket

/-- The bracket ahead, with what has a meaning of its own at the start of a set. -/
def openBracket : Reader OpenBracket := do
  let start ← here
  next
  needNext .setUnclosed start
  let negated := (← peek) = some '^'
  if negated then
    next
    needNext .setUnclosed start
  let itemsStart ← here
  let hyphens ← hyphensWithin start itemsStart.rest []
  if hyphens.isEmpty && (← peek) = some ']' then
    let c ← here
    next
    needNext .setUnclosed start
    return ⟨start, ⟨start, ← here⟩, negated, none, c, [.letter ⟨⟨c, behind c⟩, ']', false⟩]⟩
  else return ⟨start, ⟨start, ← here⟩, negated, none, itemsStart, hyphens⟩

/-! ### Items -/

/-- Fails because a bracket is not closed. -/
def failOpen {α : Type} (b : OpenBracket) : Reader α :=
  fail .setUnclosed b.opening.start b.opening.stop

/-- The class with a name of its own inside brackets. -/
def asciiNamed? (name : List Char) : Option AsciiClass :=
  match String.ofList name with
  | "alnum" => some .alnum
  | "alpha" => some .alpha
  | "ascii" => some .ascii
  | "blank" => some .blank
  | "cntrl" => some .cntrl
  | "digit" => some .digit
  | "graph" => some .graph
  | "lower" => some .lower
  | "print" => some .print
  | "punct" => some .punct
  | "space" => some .space
  | "upper" => some .upper
  | "word" => some .word
  | "xdigit" => some .xdigit
  | _ => none

/-- The class that is named between colons in a bracket ahead, if it is one. -/
def asciiClass? (c : Cursor) : Option (CharSet × Cursor) := do
  let c' ← c.skipText? ['[', ':']
  let (negated, first) :=
    match c'.skipText? ['^'] with
    | some first => (true, first)
    | none => (false, c')
  let last := first.skipWhile (· ≠ ':')
  let stop ← last.skipText? [':', ']']
  let named ← asciiNamed? (first.upTo last)
  return (.ascii ⟨c, stop⟩ negated named, stop)

/-- An item of a set that can begin a range. -/
def setAtom : Reader Term := do
  if (← peek) = some '\\' then escape
  else
    let c ← here
    take
    return .letter ⟨⟨c, ← here⟩, c.rest.headD '\x00', false⟩

/-- The term as an item of a set. -/
def asItem : Term → Reader CharSet
  | .letter l => return .letter l
  | .named c => return .named c
  | t => fail .setEscapeInvalid t.extent.start t.extent.stop

/-- The term as an end of a range. -/
def asRangeEnd : Term → Reader Letter
  | .letter l => return l
  | t => fail .rangeEndNoLetter t.extent.start t.extent.stop

/-- The first character of the list that would be read: blanks are passed over, and so is the sign
of one comment. -/
def headPastBlanks (inComment : Bool) : List Char → Option Char
  | [] => none
  | c :: rest =>
    if isBlank c then headPastBlanks inComment rest
    else if !inComment && c = '#' then headPastBlanks true rest
    else some c

/-- The character behind the next one. -/
def peekBehind : Reader (Option Char) := do
  let r ← get
  let rest := (behind r.cursor).rest
  if r.skipsBlanks then return headPastBlanks false rest <|> rest.head?
  else return rest.head?

/-- An item or a range. A hyphen in front of a bracket or of another hyphen makes no range. -/
def itemOrRange (b : OpenBracket) : Reader CharSet := do
  let first ← setAtom
  blanks
  match ← peek with
  | none => failOpen b
  | some c =>
    let ahead ← peekBehind
    if c ≠ '-' || ahead = some ']' || ahead = some '-' then asItem first
    else
      next
      if (← peek).isNone then failOpen b
      let last ← setAtom
      let extent : Extent := ⟨first.extent.start, last.extent.stop⟩
      let low ← asRangeEnd first
      let high ← asRangeEnd last
      if high.char < low.char then fail .rangeBackwards extent.start extent.stop
      return .range extent low high

/-! ### Sets -/

/-- The operation whose sign is ahead. -/
def setOperation? : Reader (Option SetOperation) := do
  if ← takeText "&&" then return some .intersection
  else if ← takeText "--" then return some .difference
  else if ← takeText "~~" then return some .symmetricDifference
  else return none

/-- The rest of a set, one item or operation for each of the budget at most. -/
def bracketWithin : (budget : List Char) → OpenBracket → Reader CharSet
  | [], b => failOpen b
  | _ :: budget, b => do
    blanks
    match ← peek with
    | none => failOpen b
    | some '[' =>
      match asciiClass? (← here) with
      | some (item, stop) =>
        moveTo stop
        bracketWithin budget (b.add item)
      | none =>
        let inner ← openBracket
        let item ← bracketWithin budget inner
        bracketWithin budget (b.add item)
    | some ']' =>
      take
      return b.close (← here)
    | some _ =>
      match ← setOperation? with
      | some operation => bracketWithin budget (b.operate operation (← here))
      | none => bracketWithin budget (b.add (← itemOrRange b))

/-- The set of characters between the bracket ahead and its end. -/
def bracket : Reader CharSet := do
  let budget := (← here).rest
  bracketWithin budget (← openBracket)

end Reader
end HeaderSurvey.Search
