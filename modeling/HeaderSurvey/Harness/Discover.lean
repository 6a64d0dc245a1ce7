import HeaderSurvey.Declaration.Parse
import HeaderSurvey.Settings.Basic
import HeaderSurvey.TestCase.Resolve

/-!
# Test cases of a set of files

Each file is parsed by itself. The types of those that parse are put together and the test cases
among them are found; the others are failures, each with its error.
-/

namespace HeaderSurvey

/-- A unit that could not be parsed. -/
structure ScanFailure where
  unit : SourceUnit
  error : UnclosedBlock
  deriving Repr, DecidableEq

namespace Harness

/-- A unit and what parsing it gave. -/
structure ScannedUnit where
  unit : SourceUnit
  outcome : Except UnclosedBlock (List TypeDecl)

/-- Parses the types of a unit. -/
def ScannedUnit.ofUnit (unit : SourceUnit) : ScannedUnit :=
  match unit.parse .types with
  | .ok d => ⟨unit, .ok d.types⟩
  | .error e => ⟨unit, .error e⟩

/-- The types of a unit that parses; none of one that does not. -/
def ScannedUnit.types (s : ScannedUnit) : List TypeDecl :=
  match s.outcome with
  | .ok types => types
  | .error _ => []

/-- The failure of a unit that does not parse. -/
def ScannedUnit.failure? (s : ScannedUnit) : Option ScanFailure :=
  match s.outcome with
  | .ok _ => none
  | .error e => some ⟨s.unit, e⟩

/-- What was read from a set of files. -/
structure Scan where
  units : List ScannedUnit
  /-- The test cases in the order in which they are accepted. -/
  cases : List TestCase

/-- Parses the units and finds the test cases. -/
def discover (settings : HarnessSettings) (units : List SourceUnit) : Scan :=
  let scanned := units.map ScannedUnit.ofUnit
  ⟨scanned, resolve settings.rootNames settings.testPrefix (scanned.flatMap (·.types))⟩

/-- The units that do not parse, in order. -/
def Scan.failures (s : Scan) : List ScanFailure :=
  s.units.filterMap (·.failure?)

/-! ### Log -/

/-- What is logged when a unit has been parsed. -/
def ScannedUnit.records (s : ScannedUnit) : List Record :=
  let record (level : Level) (message : String) : Record := ⟨level, "declgen::harness", message⟩
  match s.outcome with
  | .error e => [record .warn ("skipping " ++ s.unit.path ++ ": " ++ e.message)]
  | .ok [] => [record .warn (s.unit.path ++ " declares no classes")]
  | .ok types =>
    types.map fun t => record .debug ("found " ++ t.keyword.text ++ " " ++ t.name ++ " : [" ++
      ", ".intercalate t.bases ++ "] in " ++ s.unit.path)

/-- What is logged while the test cases are found. -/
def Scan.records (s : Scan) : List Record :=
  s.units.flatMap (·.records) ++ s.cases.flatMap (·.records) ++
    if s.cases.isEmpty then
      [⟨.warn, "declgen::harness", "no test cases found; the generated harness will be empty"⟩]
    else []

end Harness
end HeaderSurvey
