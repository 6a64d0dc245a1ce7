import HeaderSurvey.Decimal.Shortest
import HeaderSurvey.Settings.Basic
import HeaderSurvey.Text.Quoted
import HeaderSurvey.Toml.Document

/-!
# Settings from a document

A document has up to two sections, and each setting is a key in one of them. What is not given keeps
its default. The first item that is not a setting, or not of the right kind, is a fault. A section
may also be a list, whose items are its settings in their order.
-/

namespace HeaderSurvey

open Toml (Item Key Entries FloatValue)

/-! ### Faults -/

/-- What an item should have been. -/
inductive Expected where
  | string
  | sequence
  | struct (name : String)
  deriving Repr, DecidableEq

/-- What is wrong with an item. -/
inductive ShapeError where
  | unknownField (name : String) (known : List String)
  | invalidType (found : Item) (expected : Expected)

/-- What is wrong, and with which stretch of the document. -/
structure ShapeFault where
  extent : Extent
  error : ShapeError

/-- Why a document gives no settings. -/
inductive SettingsError where
  /-- The text is no document. -/
  | syntaxError
  | shape (fault : ShapeFault)

/-- A text in backquotes. -/
def backquoted (s : String) : String :=
  "`" ++ s ++ "`"

/-- What is expected, in words. -/
def Expected.text : Expected → String
  | string => "a string"
  | sequence => "a sequence"
  | struct name => "struct " ++ name

/-- A number in words. -/
def floatText : FloatValue → String
  | .notANumber => "NaN"
  | .infinite negative => if negative then "-inf" else "inf"
  | .finite negative digits exponent =>
    let shortest : Decimal :=
      match Binary64.nearest? digits exponent with
      | some b => b.shortest
      | none => ⟨digits, exponent⟩
    (if negative then "-" else "") ++ String.ofList shortest.positional

/-- What was found, in words. A date counts as a table. -/
def foundText : Item → String
  | .string _ value => "string " ++ String.ofList (Text.quote value.toList)
  | .integer _ value => "integer " ++ backquoted (toString value)
  | .float _ value => "floating point " ++ backquoted (floatText value)
  | .boolean _ value => "boolean " ++ backquoted (if value then "true" else "false")
  | .date _ => "map"
  | .table .. => "map"
  | .array .. => "sequence"
  | .tables _ => "sequence"

/-- Known names in words: one, the other, or one of many. -/
def knownText : List String → String
  | [a, b] => backquoted a ++ " or " ++ backquoted b
  | names => "one of " ++ ", ".intercalate (names.map backquoted)

/-- What is wrong, in words. -/
def ShapeError.message : ShapeError → String
  | unknownField name known =>
    "unknown field " ++ backquoted name ++ ", expected " ++ knownText known
  | invalidType found expected =>
    "invalid type: " ++ foundText found ++ ", expected " ++ expected.text

/-! ### Decoding -/

/-- A value, or a fault. -/
abbrev Decoded := Except ShapeFault

/-- The stretch of an item, or of the one that holds it if it has none of its own. -/
def extentOr (outer : Extent) (item : Item) : Extent :=
  item.extent?.getD outer

/-- A fault of kind. -/
def wrongType {α : Type} (outer : Extent) (found : Item) (expected : Expected) : Decoded α :=
  .error ⟨extentOr outer found, .invalidType found expected⟩

/-- The value of a string. -/
def decodeString (outer : Extent) : Item → Decoded String
  | .string _ value => .ok value
  | item => wrongType outer item .string

/-- The values of a list of strings. -/
def decodeStrings (outer : Extent) : Item → Decoded (List String)
  | .array e items => items.mapM (decodeString e)
  | .tables items => items.mapM (decodeString outer)
  | item => wrongType outer item .sequence

/-- A setting of a section: its name, and how an item changes the section. -/
structure Field (σ : Type) where
  name : String
  decode : Extent → Item → σ → Decoded σ

/-- Changes a section by one entry. -/
def decodeEntry {σ : Type} (fields : List (Field σ)) (s : σ) (entry : Key × Item) : Decoded σ :=
  match fields.find? (·.name = entry.1.name) with
  | some f => f.decode entry.1.extent entry.2 s
  | none => .error ⟨entry.1.extent, .unknownField entry.1.name (fields.map (·.name))⟩

/-- Changes a section by a list of items, one for each field. -/
def decodeList {σ : Type} (outer : Extent) (s : σ) (fields : List (Field σ)) (items : List Item) :
    Decoded σ :=
  (fields.zip items).foldlM (fun s (f, item) => f.decode outer item s) s

/-- The key that a date is shown as having. -/
def dateKey : String := "$__toml_private_datetime"

/-- Changes a section by an item: a table by its entries, a list by its items. -/
def decodeSection {σ : Type} (name : String) (fields : List (Field σ)) (outer : Extent)
    (item : Item) (s : σ) : Decoded σ :=
  match item with
  | .table _ _ entries => entries.foldlM (decodeEntry fields) s
  | .array e items => decodeList e s fields items
  | .tables items => decodeList outer s fields items
  | .date e => decodeEntry fields s (⟨dateKey, e⟩, item)
  | item => wrongType outer item (.struct name)

/-- The fields of the section on wrappers. -/
def wrapperFields : List (Field WrapperSettings) :=
  [ ⟨"symbol_prefix", fun e item s => do
      return { s with symbolPrefix := ← decodeString e item }⟩,
    ⟨"umbrella_header", fun e item s => do
      return { s with umbrellaHeader := ← decodeString e item }⟩,
    ⟨"header_extensions", fun e item s => do
      return { s with headerExtensions := ← decodeStrings e item }⟩ ]

/-- The fields of the section on harnesses. -/
def harnessFields : List (Field HarnessSettings) :=
  [ ⟨"root_names", fun e item s => do return { s with rootNames := ← decodeStrings e item }⟩,
    ⟨"test_prefix", fun e item s => do return { s with testPrefix := ← decodeString e item }⟩,
    ⟨"runtime_header", fun e item s => do
      return { s with runtimeHeader := ← decodeString e item }⟩,
    ⟨"runner_type", fun e item s => do return { s with runnerType := ← decodeString e item }⟩ ]

/-- The sections. -/
def sectionFields : List (Field Settings) :=
  [ ⟨"wrappers", fun e item s => do
      return { s with
        wrappers := ← decodeSection "WrapperConfig" wrapperFields e item {} }⟩,
    ⟨"harness", fun e item s => do
      return { s with
        harness := ← decodeSection "HarnessConfig" harnessFields e item {} }⟩ ]

namespace Settings

/-- The settings that the entries of a document give. -/
def ofEntries (entries : Entries) : Decoded Settings :=
  entries.foldlM (decodeEntry sectionFields) {}

/-- The settings that a text gives. -/
def ofToml (source : String) : Except SettingsError Settings :=
  match Toml.parse source with
  | none => .error .syntaxError
  | some entries =>
    match ofEntries entries with
    | .ok s => .ok s
    | .error fault => .error (.shape fault)

end Settings

/-! ### Messages with the place -/

/-- The line of the document with the start of the extent, and carets below what is wrong. The
carets stop at the end of the line; there is one at least. -/
def ShapeFault.excerpt (fault : ShapeFault) : List String :=
  let start := fault.extent.start
  let head := start.before.takeWhile (· ≠ '\n')
  let line := head.reverse ++ start.rest.takeWhile (· ≠ '\n')
  let number := toString start.line
  let margin := String.ofList (List.replicate (number.length + 1) ' ')
  let width := fault.extent.stop.offset - start.offset
  let carets := max 1 (min width (Text.byteLength line - head.length))
  [ margin ++ "|",
    number ++ " | " ++ String.ofList line,
    margin ++ "|" ++ String.ofList (List.replicate (head.length + 1) ' ') ++
      String.ofList (List.replicate carets '^') ]

/-- The fault in words, with its place in the document. It ends with a newline. -/
def ShapeFault.report (fault : ShapeFault) : String :=
  let start := fault.extent.start
  let title :=
    "TOML parse error at line " ++ toString start.line ++ ", column " ++ toString start.column
  String.join ((title :: fault.excerpt ++ [fault.error.message]).map (· ++ "\n"))

/-- Why a document gives no settings, in words. -/
def SettingsError.message : SettingsError → String
  | syntaxError => "TOML parse error\n"
  | shape fault => fault.report

end HeaderSurvey
