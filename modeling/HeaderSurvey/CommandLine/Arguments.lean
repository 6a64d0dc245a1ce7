import HeaderSurvey.Text.Basic

/-!
# Arguments of the command line

A command line is a list of options and operands. The first operand names a command, and what
follows belongs to it. Options that concern all commands may stand on either side of its name. No
option may be given twice on one side, and every value has to be a path, which is not empty.
-/

namespace HeaderSurvey

/-- What is to be done. -/
inductive Command where
  | generateWrappers (src dest : String)
  | generateHarness (output : Option String) (listTests : Bool) (files : List String)
  | listDeclarations (files : List String)
  deriving Repr, DecidableEq

/-- A command with the options that concern all commands. -/
structure Invocation where
  verbose : Bool
  settingsPath : Option String
  command : Command
  deriving Repr, DecidableEq

/-- What a command line asks for, if it is no command. -/
inductive Stop where
  /-- The version. -/
  | version
  /-- Help on the usage. -/
  | help
  /-- Nothing: it is wrong. -/
  | usage
  deriving Repr, DecidableEq

namespace Arguments

/-- An option without a value, or one with a value. -/
inductive OptionKind where
  | flag
  | value
  deriving Repr, DecidableEq

/-- What one side of the command line knows. -/
structure Side where
  options : List (String × OptionKind)
  /-- Whether the version can be asked for. -/
  hasVersion : Bool
  /-- Whether reading ends at the first operand. -/
  endsAtOperand : Bool

/-- The options that concern all commands. -/
def commonOptions : List (String × OptionKind) :=
  [("no-color", .flag), ("verbose", .flag), ("config", .value)]

/-- The options and operands of one side. -/
structure Taken where
  flags : List String
  values : List (String × String)
  operands : List String
  deriving Repr, DecidableEq

/-- One argument: the end of options, a long option perhaps with a value, short options, or
an operand. -/
inductive Word where
  | endOfOptions
  | long (name : String) (value : Option String)
  | short (letters : List Char)
  | operand
  deriving Repr, DecidableEq

/-- What kind of argument a string is. A dash alone is an operand. -/
def wordOf (arg : String) : Word :=
  match arg.toList with
  | ['-', '-'] => .endOfOptions
  | '-' :: '-' :: cs =>
    let name := String.ofList (cs.takeWhile (· ≠ '='))
    match cs.dropWhile (· ≠ '=') with
    | [] => .long name none
    | _ :: value => .long name (some (String.ofList value))
  | ['-'] => .operand
  | '-' :: cs => .short cs
  | _ => .operand

/-- Takes a flag, once. -/
def Taken.addFlag (t : Taken) (name : String) : Except Stop Taken :=
  if t.flags.contains name then .error .usage else .ok { t with flags := name :: t.flags }

/-- Takes the value of an option, once. -/
def Taken.addValue (t : Taken) (name value : String) : Except Stop Taken :=
  if value.isEmpty || (t.values.any fun v => v.1 = name) then .error .usage
  else .ok { t with values := (name, value) :: t.values }

/-- Takes an operand. -/
def Taken.addOperand (t : Taken) (s : String) : Except Stop Taken :=
  if s.isEmpty then .error .usage else .ok { t with operands := t.operands ++ [s] }

/-- Takes short options that are written together. -/
def takeShort (side : Side) (t : Taken) : List Char → Except Stop Taken
  | [] => .ok t
  | 'v' :: cs => do takeShort side (← t.addFlag "verbose") cs
  | 'V' :: _ => .error (if side.hasVersion then .version else .usage)
  | 'h' :: _ => .error .help
  | _ :: _ => .error .usage

/-- Takes a long option that has its value with it or needs none. -/
def takeLong (side : Side) (t : Taken) (name : String) (value : Option String) :
    Except Stop Taken :=
  match side.options.lookup name, value with
  | some .flag, none => t.addFlag name
  | some .value, some value => t.addValue name value
  | some _, _ => .error .usage
  | none, some _ => .error .usage
  | none, none =>
    if name = "help" then .error .help
    else if name = "version" ∧ side.hasVersion then .error .version
    else .error .usage

/-- Whether a word is an option whose value is the next argument. -/
def needsValue (side : Side) (w : Word) : Option String :=
  match w with
  | .long name none => if side.options.lookup name = some .value then some name else none
  | _ => none

/-- Takes what is an operand whatever it looks like. -/
def takeOperands (t : Taken) : List String → Except Stop Taken
  | [] => .ok t
  | arg :: args => do takeOperands (← t.addOperand arg) args

/-- Reads one side of the command line: what it takes, and the arguments that are left, from the
operand on at which it ends. -/
def read (side : Side) : Taken → List String → Except Stop (Taken × List String)
  | t, [] => .ok (t, [])
  | t, arg :: args =>
    match wordOf arg with
    | .endOfOptions =>
      if side.endsAtOperand then if args.isEmpty then .ok (t, []) else .error .usage
      else do return (← takeOperands t args, [])
    | .operand =>
      if side.endsAtOperand then .ok (t, arg :: args)
      else do read side (← t.addOperand arg) args
    | .short letters => do read side (← takeShort side t letters) args
    | .long name value =>
      match needsValue side (.long name value) with
      | none => do read side (← takeLong side t name value) args
      | some name =>
        match args with
        | [] => .error .usage
        | value :: args =>
          if wordOf value = .operand then do read side (← t.addValue name value) args
          else .error .usage

/-- The side in front of the command's name. -/
def mainSide : Side :=
  ⟨commonOptions, true, true⟩

/-- The side behind the command's name. -/
def commandSide (more : List (String × OptionKind)) : Side :=
  ⟨commonOptions ++ more, false, false⟩

/-- The options of the command that generates harnesses. -/
def harnessOptions : List (String × OptionKind) :=
  [("output", .value), ("list-tests", .flag)]

/-- The invocation of a command with what was taken on both sides. What is given behind the
command's name comes first. -/
def invocation (front back : Taken) (command : Command) : Invocation :=
  { verbose := front.flags.contains "verbose" || back.flags.contains "verbose"
    settingsPath := (back.values ++ front.values).lookup "config"
    command := command }

/-- The names of the commands. -/
def commandNames : List String :=
  ["generate-wrappers", "generate-harness", "list-declarations", "help"]

/-- What a request for help stands for: help on the program or on one command. -/
def helpStop : List String → Stop
  | [] => .help
  | [name] => if commandNames.contains name then .help else .usage
  | _ => .usage

/-- Reads the arguments behind a command's name. -/
def readCommand (front : Taken) (name : String) (args : List String) :
    Except Stop Invocation := do
  match name with
  | "generate-wrappers" =>
    let (t, _) ← read (commandSide []) ⟨[], [], []⟩ args
    match t.operands with
    | [src, dest] => return invocation front t (.generateWrappers src dest)
    | _ => throw .usage
  | "generate-harness" =>
    let (t, _) ← read (commandSide harnessOptions) ⟨[], [], []⟩ args
    if t.operands.isEmpty then throw .usage
    return invocation front t (.generateHarness (t.values.lookup "output")
      (t.flags.contains "list-tests") t.operands)
  | "list-declarations" =>
    let (t, _) ← read (commandSide []) ⟨[], [], []⟩ args
    if t.operands.isEmpty then throw .usage
    return invocation front t (.listDeclarations t.operands)
  | "help" => throw (helpStop args)
  | _ => throw .usage

/-- Reads a command line. -/
def parse (args : List String) : Except Stop Invocation := do
  match ← read mainSide ⟨[], [], []⟩ args with
  | (_, []) => throw .usage
  | (front, name :: args) => readCommand front name args

end Arguments
end HeaderSurvey
