/-!
# Settings

What can be configured: how wrappers are named and which files are headers, and which types are
test cases and how their harness is set up. Every setting has a default.
-/

namespace HeaderSurvey

/-- The settings of wrappers. -/
structure WrapperSettings where
  /-- What the names of handles and functions begin with. -/
  symbolPrefix : String := "smlt_"
  /-- The header that every wrapper source includes first. -/
  umbrellaHeader : String := "simulant/simulant.h"
  /-- The extensions of headers, without the dot. -/
  headerExtensions : List String := ["h"]
  deriving Repr, DecidableEq

/-- The settings of test harnesses. -/
structure HarnessSettings where
  /-- The base names that make a type a test case. -/
  rootNames : List String := ["TestCase", "SimulantTestCase"]
  /-- What the names of test methods begin with. -/
  testPrefix : String := "test_"
  /-- The header that declares the test runner. -/
  runtimeHeader : String := "simulant/test.h"
  /-- The qualified type of the test runner. -/
  runnerType : String := "smlt::test::TestRunner"
  deriving Repr, DecidableEq

/-- All settings. -/
structure Settings where
  wrappers : WrapperSettings := {}
  harness : HarnessSettings := {}
  deriving Repr, DecidableEq

end HeaderSurvey
