import HeaderSurvey.Search.Fault
import HeaderSurvey.Search.PropertyName
import HeaderSurvey.Search.Segment
import HeaderSurvey.Unicode.Age
import HeaderSurvey.Unicode.ScriptExtension

/-!
# Properties of characters by name

What a search pattern asks for by a name, or by a name and a value: general categories, scripts,
traits, the age of a character and its class at breaks.
-/

namespace HeaderSurvey.Search

open Unicode (Range collect exclude)

/-! ### Scripts and ages -/

/-- The characters of the script with a name. -/
def ofScript? (name : String) : Option (List Range) :=
  (Unicode.script? name).map (·.ranges)

/-- The characters that are used with a script. -/
def usedWith (s : Unicode.Script) : List Range :=
  let shared := Unicode.sharedRuns.map fun r => (r.first, r.last)
  let withIt := Unicode.sharedRuns.filter fun r => s.names.any r.scripts.contains
  collect (exclude s.ranges shared ++ withIt.map fun r => (r.first, r.last))

/-- The names of a version of the standard. -/
def versionNames (v : Unicode.Version) : List String :=
  let major := toString v.major
  let minor := toString v.minor
  [major ++ "." ++ minor, "v" ++ major ++ minor]

/-- The characters that the version with a name holds: those that it added, or one before it. -/
def ofAge? (name : String) : Option (List Range) :=
  let (earlier, later) := Unicode.versions.span fun v => !(versionNames v).contains name
  later.head?.map fun v => collect ((earlier ++ [v]).flatMap (·.added))

/-! ### Looking up -/

/-- The names of the general categories and scripts that no character is of: a surrogate is half a
character, and what is of no known script is not assigned. -/
def namesOfNone : List String :=
  ["cs", "surrogate", "hrkt", "katakanaorhiragana", "zzzz", "unknown"]

/-- The characters that have the trait with a name, or that are of the general category or script
with that name. -/
def property (name : List Char) : Except Cause (List Range) :=
  let name := normalName name
  match trait? name <|> ofCategory? name <|> ofScript? name with
  | some ranges => .ok ranges
  | none =>
    .error (if namesOfNone.contains name then .propertyValueUnknown else .propertyUnknown)

/-- The characters for which a property has a value. -/
def propertyValue (name value : List Char) : Except Cause (List Range) :=
  let name := normalName name
  let value := normalName value
  let found? :=
    match name with
    | "gc" | "generalcategory" => ofCategory? value
    | "sc" | "script" => ofScript? value
    | "scx" | "scriptextensions" => (Unicode.script? value).map usedWith
    | "age" => ofAge? value
    | "gcb" | "graphemeclusterbreak" => clusterClass? value
    | "wb" | "wordbreak" => wordClass? value
    | "sb" | "sentencebreak" => sentenceClass? value
    | _ => none
  match found? with
  | some ranges => .ok ranges
  | none =>
    .error (if propertyNames.contains name then .propertyValueUnknown else .propertyUnknown)

end HeaderSurvey.Search
