import HeaderSurvey.CharClass
import HeaderSurvey.Log
import HeaderSurvey.Search.Meaning

/-!
# Which log records are shown

A filter is a list of directives, each with a level and perhaps the beginning of the targets that it
is about. The directive with the longest matching target decides. Behind a slash stands a search
pattern for what the message has to hold.
-/

namespace HeaderSurvey

/-- Up to which level the records of some targets are shown. -/
structure Directive where
  /-- What the targets begin with; nothing if all targets are meant. -/
  target : Option String
  /-- The greatest rank of a level that is shown; zero if none is. -/
  maxRank : Nat
  deriving Repr, DecidableEq

/-- Which records are shown. -/
structure LogFilter where
  directives : List Directive
  /-- What the messages have to hold. -/
  sought : Option Search.Expr

namespace LogFilter

/-- The rank of a level by its name, in capitals or not. -/
def rank? (name : List Char) : Option Nat :=
  match String.ofList (name.map Char.toLower) with
  | "off" => some 0
  | "error" => some 1
  | "warn" => some 2
  | "info" => some 3
  | "debug" => some 4
  | "trace" => some 5
  | _ => none

/-- Adds a directive, in place of one for the same target. -/
def addDirective (d : Directive) : List Directive → List Directive
  | [] => [d]
  | x :: xs => if x.target = d.target then d :: xs else x :: addDirective d xs

/-- What is wrong with a part of a filter. -/
def complaint (part : List Char) : String :=
  "invalid logging spec '" ++ String.ofList part ++ "'"

/-- The directive that a part of a filter stands for: a level, a target, or both with an equals sign
between them. -/
def directive? (part : List Char) : Except String Directive :=
  match Text.splitBy (· = '=') part with
  | [one] =>
    match rank? (Text.trim one) with
    | some rank => .ok ⟨none, rank⟩
    | none => .ok ⟨some (String.ofList one), Level.trace.rank⟩
  | [target, level] =>
    if (Text.trim level).isEmpty then .ok ⟨some (String.ofList target), Level.trace.rank⟩
    else
      match rank? (Text.trim level) with
      | some rank => .ok ⟨some (String.ofList target), rank⟩
      | none => .error (complaint (Text.trim level))
  | _ => .error (complaint part)

/-- The directives of the parts, and what is wrong with the others. -/
def readParts : List (List Char) → List Directive → List Directive × List String
  | [], directives => (directives, [])
  | part :: parts, directives =>
    if part.isEmpty then readParts parts directives
    else
      match directive? part with
      | .ok d => readParts parts (addDirective d directives)
      | .error e =>
        let (directives, errors) := readParts parts directives
        (directives, e :: errors)

/-- What the search pattern of a filter stands for, and what is wrong with it. -/
def readPattern (pattern : List Char) : Option Search.Expr × List String :=
  match Search.Expr.ofPattern pattern with
  | .ok e => (some e, [])
  | .error e => (none, ["invalid regex filter - " ++ e.report pattern])

/-- The filter that a text stands for, and what is wrong with it. -/
def parse (spec : String) : LogFilter × List String :=
  match Text.splitBy (· = '/') spec.toList with
  | parts :: rest =>
    if 1 < rest.length then (⟨[], none⟩, [complaint spec.toList ++ " (too many '/'s)"])
    else
      let (directives, errors) := readParts ((Text.splitBy (· = ',') parts).map Text.trim) []
      let (sought, patternErrors) := (rest.head?.map readPattern).getD (none, [])
      (⟨directives, sought⟩, errors ++ patternErrors)
  | [] => (⟨[], none⟩, [])

/-- The more special of two directives: the one with the longer target, or the later one. -/
def moreSpecial (a b : Directive) : Directive :=
  let size (d : Directive) : Nat := (d.target.map (·.utf8ByteSize)).getD 0
  if size a ≤ size b then b else a

/-- Whether a directive is about a target. -/
def Directive.matches (target : String) (d : Directive) : Bool :=
  match d.target with
  | none => true
  | some start => (Text.dropStart? start.toList target.toList).isSome

/-- Whether a record is shown. Without any directive only errors are. -/
def shows (f : LogFilter) (r : Record) : Bool :=
  let directives := if f.directives.isEmpty then [⟨none, Level.error.rank⟩] else f.directives
  match directives.filter (Directive.matches r.target) with
  | [] => false
  | d :: ds =>
    r.level.rank ≤ (ds.foldl moreSpecial d).maxRank &&
      match f.sought with
      | none => true
      | some e => e.occursIn r.message.toList

end LogFilter

/-- The line of a record: level, target and message. The lines of a long message are indented. -/
def Record.line (r : Record) : String :=
  let level := r.level.name.toList
  let padded := level ++ List.replicate (5 - level.length) ' '
  let message := Text.replace ['\n'] "\n    ".toList r.message.toList
  "[" ++ String.ofList padded ++ " " ++ r.target ++ "] " ++ String.ofList message

end HeaderSurvey
