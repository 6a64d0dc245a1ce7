import HeaderSurvey.Disk.Basic
import HeaderSurvey.Log

/-!
# Runs

A run works on a disk and leaves behind what it shows: log records, lines of output and diagnostics,
in their order. A fault ends it, but the disk and what was shown before stay as they are.
-/

namespace HeaderSurvey

/-- Something that a run shows. -/
inductive Event where
  /-- A log record. -/
  | log (record : Record)
  /-- A line of output. -/
  | output (line : String)
  /-- A text for the error stream. -/
  | diagnostic (text : String)
  deriving Repr, DecidableEq

/-- The disk and what has been shown so far. -/
structure World where
  disk : Disk
  events : List Event
  deriving Repr, DecidableEq

/-- The log records among what has been shown. -/
def World.records (w : World) : List Record :=
  w.events.filterMap fun
    | .log r => some r
    | _ => none

/-- Why a run ends early. -/
inductive Fault where
  | read (path : String) (cause : DiskError)
  | write (path : String) (cause : DiskError)
  | walk (path : String) (cause : DiskError)
  | missingOutputPath
  | invalidSettings (path message : String)
  deriving Repr, DecidableEq

/-- The fault in words. -/
def Fault.message : Fault → String
  | read path cause => "cannot read '" ++ path ++ "': " ++ cause.message
  | write path cause => "cannot write '" ++ path ++ "': " ++ cause.message
  | walk path cause =>
    "cannot walk '" ++ path ++ "': IO error for operation on " ++ path ++ ": " ++ cause.message
  | missingOutputPath => "an output path is required (pass --output <path>)"
  | invalidSettings path message => "invalid config '" ++ path ++ "': " ++ message

/-- A computation on a world that may end in a fault. -/
abbrev Run := ExceptT Fault (StateM World)

namespace Run

/-- Shows something. -/
def tell (e : Event) : Run Unit :=
  modify fun w => { w with events := w.events ++ [e] }

/-- Logs records. -/
def log (records : List Record) : Run Unit :=
  modify fun w => { w with events := w.events ++ records.map Event.log }

/-- The disk as it is. -/
def disk : Run Disk := do
  return (← get).disk

/-- The value, or the fault made from the cause. -/
def orFault {α : Type} (fault : DiskError → Fault) : Except DiskError α → Run α
  | .ok x => pure x
  | .error e => throw (fault e)

end Run
end HeaderSurvey
