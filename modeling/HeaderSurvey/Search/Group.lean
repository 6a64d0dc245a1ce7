import HeaderSurvey.Search.Bracket

/-!
# Groups of a search pattern

What may stand behind an opening parenthesis: a name, switches for the group, or switches for the
terms that follow and no group at all.
-/

namespace HeaderSurvey.Search

/-- What an opening parenthesis and the characters behind it begin. -/
inductive GroupHead where
  /-- A group, numbered or with switches of its own. -/
  | group (numbered : Bool) (changes : List SwitchChange)
  /-- Switches for the terms that follow. -/
  | switches (extent : Extent) (changes : List SwitchChange)

/-- What the changes make of a switch, if they mention it. -/
def changeOf? (s : Switch) (changes : List SwitchChange) : Option Bool :=
  (changes.find? (·.1 = s)).map (·.2)

namespace Reader

/-! ### Switches -/

/-- The switch with a letter. -/
def switchOf? : Char → Option Switch
  | 'i' => some .ignoreCase
  | 'm' => some .everyLine
  | 's' => some .dotAll
  | 'U' => some .preferShort
  | 'u' => some .allScripts
  | 'R' => some .carriageReturns
  | 'x' => some .skipBlanks
  | _ => none

/-- A switch or the sign of negation, where it is written. Negation is no switch. -/
abbrev SwitchItem := Option Switch × Extent

/-- Fails with an item that repeats an earlier one. -/
def refuseRepeated (items : List SwitchItem) (item : SwitchItem) : Reader Unit := do
  match items.find? (·.1 = item.1) with
  | none => return ()
  | some earlier =>
    let cause := if item.1.isNone then Cause.switchNegationDuplicate else .switchDuplicate
    throw ⟨cause, item.2, some earlier.2⟩

/-- The switches ahead up to a colon or a closing parenthesis, behind those that have been read. -/
def switchItems : (budget : List Char) → List SwitchItem → Reader (List SwitchItem)
  | [], _ => failHere .switchesUnfinished
  | _ :: budget, items => do
    let c ← here
    match ← peek with
    | none => failHere .switchesUnfinished
    | some ':' => return items
    | some ')' => return items
    | some x =>
      let kind := switchOf? x
      if x ≠ '-' && kind.isNone then failNext .switchUnknown
      let item : SwitchItem := (kind, ⟨c, behind c⟩)
      refuseRepeated items item
      take
      switchItems budget (items ++ [item])

/-- What the items change: those behind the sign of negation are put off. -/
def changesOf (on : Bool) : List SwitchItem → List SwitchChange
  | [] => []
  | (none, _) :: items => changesOf false items
  | (some s, _) :: items => (s, on) :: changesOf on items

/-- The switches ahead, with the colon or parenthesis behind them; and whether it is a colon. -/
def switches : Reader (List SwitchChange × Bool) := do
  let items ← switchItems (← here).rest []
  match items.getLast? with
  | some (none, e) => fail .switchNegationDangling e.start e.stop
  | _ =>
    let isGroup := (← peek) = some ':'
    take
    return (changesOf true items, isGroup)

/-! ### Names -/

/-- Whether a character can stand in a name. -/
def isNameChar (first : Bool) (c : Char) : Bool :=
  c = '_' || if first then isAlphabetic c else isAlphanumeric c || c = '.' || c = '[' || c = ']'

/-- The characters of a name. -/
def nameChars (first : Bool) : (budget : List Char) → Reader (List Char)
  | [] => return []
  | _ :: budget => do
    match ← peek with
    | none => failHere .nameUnclosed
    | some '>' => return []
    | some c =>
      if isNameChar first c then
        take
        return c :: (← nameChars false budget)
      else failNext .nameInvalid

/-- The name of a group and the angle bracket behind it. No name is given twice. -/
def groupName : Reader Unit := do
  needNext .nameUnclosed (← here)
  let start ← here
  let name ← nameChars true start.rest
  needNext .nameUnclosed (← here)
  let extent : Extent := ⟨start, ← here⟩
  take
  if name.isEmpty then fail .nameEmpty start start
  let names := (← get).names
  match names.find? (·.1 = name) with
  | some earlier => throw ⟨.nameDuplicate, extent, some earlier.2⟩
  | none => modify fun r => { r with names := names ++ [(name, extent)] }

/-! ### Heads of groups -/

/-- Whether the pattern goes on with the start of a look-around, which is taken. -/
def takeLookaround : Reader Bool :=
  ["?=", "?!", "?<=", "?<!"].anyM takeText

/-- The parenthesis ahead and what stands at the start of a group. -/
def groupHead : Reader GroupHead := do
  let start ← here
  take
  let extent : Extent := ⟨start, ← here⟩
  blanks
  let inner ← here
  if ← takeLookaround then failFrom .lookaround start
  if ← ["?P<", "?<"].anyM takeText then
    groupName
    return .group true []
  else if ← takeText "?" then
    if (← peek).isNone then fail .groupUnclosed extent.start extent.stop
    match ← switches with
    | (changes, true) => return .group false changes
    | ([], false) => fail .repetitionOfNothing inner inner
    | (changes, false) => return .switches ⟨start, ← here⟩ changes
  else return .group true []

end Reader
end HeaderSurvey.Search
