/-!
# Log records

A record is one message of a run with its level and the part of the program that made it.
-/

namespace HeaderSurvey

/-- How serious a record is. -/
inductive Level where
  | error
  | warn
  | info
  | debug
  | trace
  deriving Repr, DecidableEq

namespace Level

/-- The level as it is written. -/
def name : Level → String
  | error => "ERROR"
  | warn => "WARN"
  | info => "INFO"
  | debug => "DEBUG"
  | trace => "TRACE"

/-- The place of the level, the most serious first. -/
def rank : Level → Nat
  | error => 1
  | warn => 2
  | info => 3
  | debug => 4
  | trace => 5

end Level

/-- One message of a run. -/
structure Record where
  level : Level
  /-- The part of the program that made the record. -/
  target : String
  message : String
  deriving Repr, DecidableEq

namespace Record

/-- The record without its target. -/
def brief (r : Record) : String :=
  r.level.name ++ " " ++ r.message

end Record
end HeaderSurvey
