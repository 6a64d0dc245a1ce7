import HeaderSurvey.Text.Cursor

/-!
# Items of a TOML document

What a document holds, with the places in its text. Tables remember how they came about, because
that decides what may be added to them: a table that only a longer header implies can still get a
header of its own, and a table that dotted keys made can get more dotted keys.
-/

namespace HeaderSurvey.Toml

/-- A key and where it is written. -/
structure Key where
  name : String
  extent : Extent
  deriving Repr, DecidableEq

/-- A number with a point, an exponent or no value. -/
inductive FloatValue where
  /-- `digits · 10 ^ exponent` with a sign. -/
  | finite (negative : Bool) (digits : Nat) (exponent : Int)
  | infinite (negative : Bool)
  | notANumber
  deriving Repr, DecidableEq

/-- How a table came about. -/
inductive TableKind where
  /-- By a header of its own. -/
  | header
  /-- By the header of a table inside it. -/
  | implied
  /-- By a dotted key. -/
  | dotted
  /-- Between braces. -/
  | inline
  deriving Repr, DecidableEq

/-- A value or table, with the stretch of text that it takes. Tables that no text of their own
stands for have none. -/
inductive Item where
  | string (extent : Extent) (value : String)
  | integer (extent : Extent) (value : Int)
  | float (extent : Extent) (value : FloatValue)
  | boolean (extent : Extent) (value : Bool)
  | date (extent : Extent)
  | array (extent : Extent) (items : List Item)
  | table (extent : Option Extent) (kind : TableKind) (entries : List (Key × Item))
  /-- Tables under one header that is written once for each. -/
  | tables (items : List Item)
  deriving Repr

/-- The keys of a table with their items, in the order in which they came. -/
abbrev Entries := List (Key × Item)

/-- The stretch of text of a table. -/
def Item.tableExtent? : Item → Option Extent
  | table e _ _ => e
  | _ => none

/-- The stretch of text of an item. Several tables under one header reach from the start of the
first to the end of the last. -/
def Item.extent? : Item → Option Extent
  | string e _ => some e
  | integer e _ => some e
  | float e _ => some e
  | boolean e _ => some e
  | date e => some e
  | array e _ => some e
  | table e _ _ => e
  | tables items => do
    let first ← items.head?.bind tableExtent?
    let last ← items.getLast?.bind tableExtent?
    return ⟨first.start, last.stop⟩

namespace Entries

/-- The item under a name. -/
def find? (name : String) (entries : Entries) : Option Item :=
  (List.find? (·.1.name = name) entries).map (·.2)

/-- The entries without the one under a name. -/
def erase (name : String) (entries : Entries) : Entries :=
  entries.filter (·.1.name ≠ name)

/-- The entries with another item under a name that they have. -/
def replace (name : String) (item : Item) (entries : Entries) : Entries :=
  entries.map fun (key, old) => if key.name = name then (key, item) else (key, old)

/-- Adds a key with its item. No key can be added twice. -/
def add (key : Key) (item : Item) (entries : Entries) : Option Entries :=
  match entries.find? key.name with
  | some _ => none
  | none => some (entries ++ [(key, item)])

end Entries

/-- The last item of a list, and the ones before it. -/
def splitLast : List Item → Option (List Item × Item)
  | [] => none
  | [x] => some ([], x)
  | x :: xs => (splitLast xs).map fun (init, last) => (x :: init, last)

/-- Adds an item under a dotted key: the tables on the way are made, or were made by dotted keys
before. Tables that have a header, or stand between braces, are closed to dotted keys. -/
def addDotted (key : Key) (item : Item) : (path : List Key) → Entries → Option Entries
  | [], entries => entries.add key item
  | k :: path, entries =>
    match entries.find? k.name with
    | none => do
      let inner ← addDotted key item path []
      return entries ++ [(k, .table none .dotted inner)]
    | some (.table extent .dotted inner) => do
      return entries.replace k.name (.table extent .dotted (← addDotted key item path inner))
    | some (.table extent .implied inner) =>
      if path.isEmpty then none
      else do
        return entries.replace k.name (.table extent .implied (← addDotted key item path inner))
    | some (.tables items) =>
      match splitLast items with
      | some (others, .table extent kind inner) =>
        if path.isEmpty then none
        else do
          let last := Item.table extent kind (← addDotted key item path inner)
          return entries.replace k.name (.tables (others ++ [last]))
      | _ => none
    | some _ => none

/-- Changes the entries of the table that a header's path leads to. Tables that are missing on the
way are implied, and of several tables under one header the last is meant. -/
def changeAt (change : Entries → Option Entries) : (path : List Key) → Entries → Option Entries
  | [], entries => change entries
  | k :: path, entries =>
    match entries.find? k.name with
    | none => do
      return entries ++ [(k, .table none .implied (← changeAt change path []))]
    | some (.table extent kind inner) =>
      if kind = .inline then none
      else do return entries.replace k.name (.table extent kind (← changeAt change path inner))
    | some (.tables items) =>
      match splitLast items with
      | some (others, .table extent kind inner) => do
        let last := Item.table extent kind (← changeAt change path inner)
        return entries.replace k.name (.tables (others ++ [last]))
      | _ => none
    | some _ => none

/-! ### Documents -/

/-- A key with dots: the names before the last dot, and the last. -/
structure DottedKey where
  path : List Key
  last : Key

/-- A key and its value, as they are written. -/
structure Assignment where
  key : DottedKey
  item : Item

/-- A header and the assignments below it. -/
structure Section where
  /-- Whether the header adds one more table to those under its key. -/
  repeated : Bool
  key : DottedKey
  header : Extent
  assignments : List Assignment

/-- Adds assignments to a table, in order. -/
def addAll (entries : Entries) (assignments : List Assignment) : Option Entries :=
  assignments.foldlM (fun entries a => addDotted a.key.last a.item a.key.path entries) entries

/-- From the header of a section to the last value below it. -/
def Section.extent (s : Section) : Extent :=
  match s.assignments.getLast?.bind (·.item.extent?) with
  | none => s.header
  | some e => ⟨s.header.start, e.stop⟩

/-- Puts the table of a section among the entries that hold it. -/
def Section.place (s : Section) (entries : Entries) : Option Entries :=
  let name := s.key.last.name
  if s.repeated then do
    let table := Item.table (some s.extent) .header (← addAll [] s.assignments)
    match entries.find? name with
    | none => return entries ++ [(s.key.last, .tables [table])]
    | some (.tables items) => return entries.replace name (.tables (items ++ [table]))
    | some _ => none
  else do
    let implied ←
      match entries.find? name with
      | none => some []
      | some (.table _ .implied inner) => some inner
      | some _ => none
    let table := Item.table (some s.extent) .header (← addAll implied s.assignments)
    return entries.erase name ++ [(s.key.last, table)]

/-- The table of a document: the assignments before the first header, and the sections in order. -/
def assemble (top : List Assignment) (sections : List Section) : Option Entries := do
  sections.foldlM (fun entries s => changeAt s.place s.key.path entries) (← addAll [] top)

end HeaderSurvey.Toml
