import HeaderSurvey.Search.Group

/-!
# Reading a search pattern

The terms of a pattern from its first character to its last: characters, sets and anchors in a row,
repetitions behind them, bars between alternatives, and groups. `Term.parse` gives the term of the
whole pattern, or its first fault. Nesting is looked at last, in a pattern without other faults.
-/

namespace HeaderSurvey.Search

/-- The inside of a group, or of a whole pattern, that is being read. -/
structure Branches where
  /-- Where the first alternative begins. -/
  start : Cursor
  /-- The alternatives that are complete, the last first. -/
  complete : List Term
  /-- Where the last alternative begins. -/
  lastStart : Cursor
  /-- The terms of the last alternative, the last first. -/
  terms : List Term

namespace Branches

/-- Nothing yet, at a cursor. -/
def nothingAt (c : Cursor) : Branches :=
  ⟨c, [], c, []⟩

/-- Adds a term to the last alternative. -/
def add (t : Term) (b : Branches) : Branches :=
  { b with terms := t :: b.terms }

/-- The last alternative, whose end is at a cursor, as one term. -/
def lastTerm (stop : Cursor) (b : Branches) : Term :=
  match b.terms.reverse with
  | [] => .empty ⟨b.lastStart, stop⟩
  | [t] => t
  | terms => .seq ⟨b.lastStart, stop⟩ terms

/-- Goes on behind a bar, which stands between two cursors. -/
def divide (stop next : Cursor) (b : Branches) : Branches :=
  ⟨b.start, b.lastTerm stop :: b.complete, next, []⟩

/-- All alternatives, whose end is at a cursor, as one term. -/
def whole (stop : Cursor) (b : Branches) : Term :=
  match b.complete with
  | [] => b.lastTerm stop
  | complete => .choice ⟨b.start, stop⟩ (b.lastTerm stop :: complete).reverse

end Branches

namespace Reader

/-! ### Repetitions -/

/-- The last term, if it can be repeated, and what stands before it. -/
def splitRepeated (b : Branches) : Reader (Term × Branches) := do
  match b.terms with
  | [] => failHere .repetitionOfNothing
  | .switches _ _ :: _ => failHere .repetitionOfNothing
  | t :: terms => return (t, { b with terms })

/-- A question mark ahead, which says that a repetition prefers to be short. -/
def laziness : Reader Unit := do
  if (← peek) = some '?' then take

/-- The sign of a repetition ahead, behind a term. -/
def signedRepetition (least : Nat) (most : Option Nat) (b : Branches) : Reader Branches := do
  let (t, b) ← splitRepeated b
  take
  laziness
  return b.add (.repeated ⟨t.extent.start, ← here⟩ least most t)

/-- A number that has to be one. -/
def need {α : Type} (x : Except Fault α) : Reader α :=
  StateT.lift x

/-- The bounds of a repetition, behind the brace at `start`. -/
def bounds (start : Cursor) : Reader (Nat × Option Nat) := do
  let least ← decimal
  needNext .countUnclosed start
  if (← peek) = some ',' then
    next
    needNext .countUnclosed start
    if (← peek) = some '}' then return (← need least, none)
    else
      let least ← need least
      let most ← need (← decimal)
      return (least, some most)
  else
    let count ← need least
    return (count, some count)

/-- The braces of a repetition ahead, behind a term. -/
def countedRepetition (b : Branches) : Reader Branches := do
  let (t, b) ← splitRepeated b
  let start ← here
  next
  needNext .countUnclosed start
  let (least, most) ← bounds start
  if (← peek) ≠ some '}' then failFrom .countUnclosed start
  next
  laziness
  if most.any (· < least) then failFrom .countBackwards start
  return b.add (.repeated ⟨t.extent.start, ← here⟩ least most t)

/-! ### Terms -/

/-- A character, a set or an anchor ahead. -/
def atom : Reader Term := do
  let c ← here
  let extent : Extent := ⟨c, behind c⟩
  match ← peek with
  | some '\\' => escape
  | some '[' => return .set (← bracket)
  | some '.' => take; return .dot extent
  | some '^' => take; return .anchor extent .start
  | some '$' => take; return .anchor extent .stop
  | some x => take; return .letter ⟨extent, x, false⟩
  | none => return .empty extent

/-- Takes a change of the switch for blanks, and gives how it was before. -/
def changeBlanks (changes : List SwitchChange) : Reader Bool := do
  let before := (← get).skipsBlanks
  modify fun r => { r with skipsBlanks := (changeOf? .skipBlanks changes).getD before }
  return before

/-- Reads on to the end of a group, or to the end of the pattern where `parenthesis` is nothing: one
step for each of the budget at most. The end itself is not taken. -/
def branchesWithin (parenthesis : Option Extent) : (budget : List Char) → Branches → Reader Term
  | [], b => finish b
  | _ :: budget, b => do
    blanks
    match ← peek with
    | none => finish b
    | some '(' =>
      let start ← here
      match ← groupHead with
      | .switches extent changes =>
        let _ ← changeBlanks changes
        branchesWithin parenthesis budget (b.add (.switches extent changes))
      | .group numbered changes =>
        let skipped ← changeBlanks changes
        let body ←
          branchesWithin (some ⟨start, behind start⟩) budget (Branches.nothingAt (← here))
        modify fun r => { r with skipsBlanks := skipped }
        take
        let group := Term.group ⟨start, ← here⟩ numbered changes body
        branchesWithin parenthesis budget (b.add group)
    | some ')' =>
      if parenthesis.isSome then return b.whole (← here)
      else failNext .groupUnopened
    | some '|' =>
      let stop ← here
      take
      branchesWithin parenthesis budget (b.divide stop (← here))
    | some '?' => branchesWithin parenthesis budget (← signedRepetition 0 (some 1) b)
    | some '*' => branchesWithin parenthesis budget (← signedRepetition 0 none b)
    | some '+' => branchesWithin parenthesis budget (← signedRepetition 1 none b)
    | some '{' => branchesWithin parenthesis budget (← countedRepetition b)
    | some _ => branchesWithin parenthesis budget (b.add (← atom))
where
  /-- Ends at the end of the pattern, where no group may be open. -/
  finish (b : Branches) : Reader Term := do
    match parenthesis with
    | none => return b.whole (← here)
    | some e => fail .groupUnclosed e.start e.stop

end Reader

/-- The term that a pattern stands for, or its first fault. -/
def Term.parse (pattern : List Char) : Except Fault Term := do
  let c := Cursor.atStart pattern
  let reader := Reader.branchesWithin none pattern (Branches.nothingAt c)
  let term ← reader.run' ⟨c, false, []⟩
  match term.tooDeep? nestingLimit with
  | none => return term
  | some extent => throw ⟨.nestingTooDeep, extent, none⟩

end HeaderSurvey.Search
