import LivePreview.Log

namespace LivePreview.CommandLine

/-! How a command's arguments are read: options by their long names, operands, and the faults of
both. -/

inductive Complaint
  | empty
  | because (reason : String)
deriving DecidableEq, Repr

inductive OptionKind
  | switch
  /-- Takes one; `placeholder` stands for it in messages. -/
  | valued (placeholder : String) (repeatable : Bool) (check : String → Option Complaint)

structure OptionSpec where
  name : String
  kind : OptionKind

namespace OptionSpec

def shown (option : OptionSpec) : String :=
  match option.kind with
  | .switch => "--" ++ option.name
  | .valued placeholder _ _ => "--" ++ option.name ++ " <" ++ placeholder ++ ">"

def repeatable (option : OptionSpec) : Bool :=
  match option.kind with
  | .switch => false
  | .valued _ repeatable _ => repeatable

def check (option : OptionSpec) (value : String) : Option Complaint :=
  match option.kind with
  | .switch => none
  | .valued _ _ check => check value

end OptionSpec

inductive UsageError
  | unexpectedArgument (shown : String)
  | unexpectedValue (value option : String)
  | missingValue (option : String)
  | invalidValue (value option reason : String)
  | repeated (option : String)
  | unknownCommand (name : String)
  | missingCommand
  | missingOperands
deriving DecidableEq, Repr

/-- The first line that the error is told in. -/
def UsageError.message : UsageError → String
  | .unexpectedArgument shown => "error: unexpected argument '" ++ shown ++ "' found"
  | .unexpectedValue value option =>
    "error: unexpected value '" ++ value ++ "' for '" ++ option ++ "' found; no more were expected"
  | .missingValue option =>
    "error: a value is required for '" ++ option ++ "' but none was supplied"
  | .invalidValue value option reason =>
    "error: invalid value '" ++ value ++ "' for '" ++ option ++ "': " ++ reason
  | .repeated option => "error: the argument '" ++ option ++ "' cannot be used multiple times"
  | .unknownCommand name => "error: unrecognized subcommand '" ++ name ++ "'"
  | .missingCommand => "error: 'sandbox-cli' requires a subcommand but one was not provided"
  | .missingOperands => "error: the following required arguments were not provided:"

/-- What ends the reading of arguments early. -/
inductive Stop
  | error (error : UsageError)
  /-- Help was asked for, on one command or on all. -/
  | help (command : Option String)
  | version
  /-- Nothing at all was given. -/
  | nothingGiven
deriving DecidableEq, Repr

inductive Shape
  | operand
  | escape
  | short (letter : Char)
  | long (name : String) (value : Option String)
deriving DecidableEq, Repr

def splitAtEquals : List Char → List Char × Option (List Char)
  | [] => ([], none)
  | c :: rest =>
    if c = '=' then ([], some rest)
    else
      let (before, after) := splitAtEquals rest
      (c :: before, after)

def Shape.of (argument : String) : Shape :=
  match argument.toList with
  | ['-', '-'] => .escape
  | '-' :: '-' :: rest =>
    let (name, value) := splitAtEquals rest
    .long (String.ofList name) (value.map String.ofList)
  | '-' :: letter :: _ => .short letter
  | _ => .operand

structure Given where
  /-- An option whose value, if there already, has not been looked at. -/
  pending : Option (OptionSpec × Option String)
  /-- Options with their values, in order; a switch has an empty one. -/
  options : List (String × String)
  operands : List String
  /-- Whether only operands follow. -/
  escaped : Bool

namespace Given

def nothing : Given := ⟨none, [], [], false⟩

def has (given : Given) (name : String) : Bool :=
  given.options.any fun option => option.1 == name

def values (given : Given) (name : String) : List String :=
  (given.options.filter fun option => option.1 == name).map Prod.snd

def value? (given : Given) (name : String) : Option String :=
  (given.values name).head?

def accept (given : Given) (option : OptionSpec) (value : String) : Except Stop Given :=
  if given.has option.name && !option.repeatable then .error (.error (.repeated option.shown))
  else
    match option.check value with
    | none => .ok { given with options := given.options ++ [(option.name, value)] }
    | some .empty => .error (.error (.missingValue option.shown))
    | some (.because reason) => .error (.error (.invalidValue value option.shown reason))

def settle (given : Given) : Except Stop Given :=
  match given.pending with
  | none => .ok given
  | some (option, none) => .error (.error (.missingValue option.shown))
  | some (option, some value) => { given with pending := none }.accept option value

def awaitsValue (given : Given) : Option OptionSpec :=
  match given.pending with
  | some (option, none) => some option
  | _ => none

/-- The value of the option that waits for one, or an operand. -/
def addOperand (given : Given) (accepts : Bool) (argument : String) : Except Stop Given :=
  match given.escaped, given.awaitsValue with
  | false, some option => .ok { given with pending := some (option, some argument) }
  | _, _ =>
    if !accepts then .error (.error (.unexpectedArgument argument))
    else do
      let given ← given.settle
      return { given with operands := given.operands ++ [argument] }

def addLong (given : Given) (options : List OptionSpec) (name : String) (value : Option String) :
    Except Stop Given :=
  match options.find? fun option => option.name == name with
  | none => .error (.error (.unexpectedArgument ("--" ++ name)))
  | some option =>
    match option.kind, value with
    | .switch, some value => .error (.error (.unexpectedValue value option.shown))
    | .switch, none => do (← given.settle).accept option ""
    | .valued _ _ _, some value => do (← given.settle).accept option value
    | .valued _ _ _, none => do
      let given ← given.settle
      return { given with pending := some (option, none) }

/-- Asks for help, unless an option before lacks its value. -/
def askHelp (given : Given) (command : Option String) (value : Option String) : Stop :=
  match value, given.settle with
  | some value, _ => .error (.unexpectedValue value "--help")
  | none, .ok _ => .help command
  | none, .error stop => stop

def askVersion (given : Given) (value : Option String) : Stop :=
  match value, given.settle with
  | some value, _ => .error (.unexpectedValue value "--version")
  | none, .ok _ => .version
  | none, .error stop => stop

end Given

structure CommandSpec where
  name : String
  options : List OptionSpec
  /-- Whether operands may be given; if so, one must be. -/
  operands : Bool

namespace CommandSpec

def step (command : CommandSpec) (given : Given) (argument : String) : Except Stop Given :=
  if given.escaped then given.addOperand command.operands argument
  else
    match Shape.of argument with
    | .escape => .ok { given with escaped := true }
    | .operand => given.addOperand command.operands argument
    | .short 'h' => .error (given.askHelp (some command.name) none)
    | .short letter =>
      .error (.error (.unexpectedArgument (String.ofList ['-', letter])))
    | .long "help" value => .error (given.askHelp (some command.name) value)
    | .long name value => given.addLong command.options name value

def read (command : CommandSpec) (arguments : List String) : Except Stop Given := do
  let given ← arguments.foldlM command.step Given.nothing
  let given ← given.settle
  if command.operands && given.operands.isEmpty then .error (.error .missingOperands)
  else return given

end CommandSpec

/-- What stands before the command: options of the program as a whole. -/
structure ProgramSpec where
  options : List OptionSpec
  commands : List CommandSpec

namespace ProgramSpec

def helpOn (program : ProgramSpec) : List String → Stop
  | [] => .help none
  | name :: rest =>
    match program.commands.find? fun command => command.name == name, rest with
    | none, _ =>
      if name = "help" && rest.isEmpty then .help (some "help")
      else .error (.unknownCommand name)
    | some command, [] => .help (some command.name)
    | some _, other :: _ => .error (.unknownCommand other)

/-- The options before the command, the command, and what it was given. -/
def readFrom (program : ProgramSpec) (given : Given) :
    List String → Except Stop (Given × CommandSpec × Given)
  | [] => .error (if given.options.isEmpty then .nothingGiven else .error .missingCommand)
  | argument :: rest =>
    if given.escaped then
      .error (.error
        (if argument = "help" || program.commands.any fun command => command.name == argument then
          .unexpectedArgument argument
        else .unknownCommand argument))
    else
      match Shape.of argument with
      | .escape => program.readFrom { given with escaped := true } rest
      | .operand =>
        match program.commands.find? fun command => command.name == argument with
        | some command => (command.read rest).map fun own => (given, command, own)
        | none =>
          .error (if argument = "help" then program.helpOn rest
            else .error (.unknownCommand argument))
      | .short 'h' => .error (given.askHelp none none)
      | .short 'V' => .error (given.askVersion none)
      | .short letter => .error (.error (.unexpectedArgument (String.ofList ['-', letter])))
      | .long "help" value => .error (given.askHelp none value)
      | .long "version" value => .error (given.askVersion value)
      | .long name value => do program.readFrom (← given.addLong program.options name value) rest

def read (program : ProgramSpec) (arguments : List String) :
    Except Stop (Given × CommandSpec × Given) :=
  program.readFrom .nothing arguments

end ProgramSpec

end LivePreview.CommandLine
