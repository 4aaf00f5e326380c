import Pacing.Tasks.Command

/-!
# Command lines

The reading of command lines.  A command takes operands and options; an option
takes a value, behind an equals sign or as the next argument.  Options are
written with two hyphens, and behind a lone pair of hyphens every argument is
an operand.

The value of an option or operand is checked when the next one begins or when
the line ends, and a value behind an equals sign at once.  An argument that is
not known is reported where it stands, whatever is wrong with the value before
it.
-/

namespace Pacing.Tasks

/-- Why a command line is not carried out. -/
inductive ArgumentError where
  | invalidSubcommand
  | invalidValue
  | unknownArgument
  | argumentConflict
  | tooManyValues
  | displayHelp
  | displayHelpOnMissing
  deriving DecidableEq, Repr

namespace ArgumentError

def name : ArgumentError → String
  | .invalidSubcommand => "InvalidSubcommand"
  | .invalidValue => "InvalidValue"
  | .unknownArgument => "UnknownArgument"
  | .argumentConflict => "ArgumentConflict"
  | .tooManyValues => "TooManyValues"
  | .displayHelp => "DisplayHelp"
  | .displayHelpOnMissing => "DisplayHelpOnMissingArgumentOrSubcommand"

/-- The exit status of the task runner: help that was asked for is no
failure. -/
def status : ArgumentError → Nat
  | .displayHelp => 0
  | _ => 2

end ArgumentError

/-- What an argument looks like. -/
inductive Token where
  /-- The lone pair of hyphens. -/
  | escape
  /-- Two hyphens and a name, with or without a value. -/
  | long (name : String) (value : Option String)
  /-- One hyphen and letters, given by the first of them. -/
  | short (letter : Char)
  | word (text : String)
  deriving DecidableEq, Repr

namespace Token

/-- A name and the value behind its first equals sign. -/
def longOf (characters : List Char) : Token :=
  let name := String.ofList (characters.takeWhile fun character => character != '=')
  match characters.dropWhile fun character => character != '=' with
  | [] => .long name none
  | _ :: value => .long name (some (String.ofList value))

def of (argument : String) : Token :=
  match argument.toList with
  | ['-', '-'] => .escape
  | '-' :: '-' :: rest => longOf rest
  | '-' :: letter :: _ => .short letter
  | _ => .word argument

end Token

/-! ## Arguments of one command -/

/-- What a command accepts. -/
structure Shape where
  options : List String
  operands : List String
  /-- The values that an option or operand may have. -/
  accepts : (name value : String) → Bool

/-- How far the arguments of a command have been read. -/
structure Progress where
  /-- The options and operands whose values have been checked. -/
  settled : List (String × String)
  /-- The option or operand that was read last, and its value once it has
  one. -/
  pending : Option (String × Option String)
  /-- The operands that are still to come. -/
  operands : List String
  deriving DecidableEq, Repr

namespace Shape

def start (shape : Shape) : Progress :=
  { settled := [], pending := none, operands := shape.operands }

/-- Checks the option or operand that was read last: it needs a value, must
not have been given before, and the value must be accepted. -/
def settle (shape : Shape) (progress : Progress) : Except ArgumentError Progress :=
  match progress.pending with
  | none => .ok progress
  | some (_, none) => .error .invalidValue
  | some (name, some value) =>
    if progress.settled.any fun entry => entry.1 == name then .error .argumentConflict
    else if shape.accepts name value then
      .ok { progress with settled := (name, value) :: progress.settled, pending := none }
    else .error .invalidValue

/-- Takes an argument as the next operand. -/
def takeOperand (shape : Shape) (progress : Progress) (value : String) :
    Except ArgumentError Progress :=
  match progress.operands with
  | [] => .error .unknownArgument
  | name :: operands => do
    let progress ← shape.settle progress
    return { progress with pending := some (name, some value), operands }

/-- Takes an argument as the value of the option before it, if that option
still has none, and as an operand otherwise. -/
def takeWord (shape : Shape) (progress : Progress) (value : String) :
    Except ArgumentError Progress :=
  match progress.pending with
  | some (name, none) => .ok { progress with pending := some (name, some value) }
  | _ => shape.takeOperand progress value

def takeLong (shape : Shape) (progress : Progress) (name : String) (value : Option String) :
    Except ArgumentError Progress :=
  if name = "help" then
    match value with
    | none => do
      let _ ← shape.settle progress
      .error .displayHelp
    | some _ => .error .tooManyValues
  else if shape.options.contains name then do
    let progress ← shape.settle progress
    let progress := { progress with pending := some (name, value) }
    match value with
    | none => return progress
    | some _ => shape.settle progress
  else .error .unknownArgument

def takeShort (shape : Shape) (progress : Progress) (letter : Char) :
    Except ArgumentError Progress :=
  if letter = 'h' then do
    let _ ← shape.settle progress
    .error .displayHelp
  else .error .unknownArgument

/-- Reads the arguments from a given one on; `escaped` tells whether the lone
pair of hyphens has been passed. -/
def readFrom (shape : Shape) (escaped : Bool) (progress : Progress) :
    List String → Except ArgumentError Progress
  | [] => shape.settle progress
  | argument :: rest =>
    if escaped then do
      shape.readFrom true (← shape.takeOperand progress argument) rest
    else
      match Token.of argument with
      | .escape => shape.readFrom true progress rest
      | .long name value => do
        shape.readFrom false (← shape.takeLong progress name value) rest
      | .short letter => do
        shape.readFrom false (← shape.takeShort progress letter) rest
      | .word text => do
        shape.readFrom false (← shape.takeWord progress text) rest

/-- The options and operands of a command with their values. -/
def read (shape : Shape) (arguments : List String) :
    Except ArgumentError (List (String × String)) :=
  (shape.readFrom false shape.start arguments).map Progress.settled

end Shape

/-! ## The commands -/

namespace Command

/-- The names of the commands that can be carried out. -/
def names : List String := ["ci", "serverless-package"]

def helpName : String := "help"

def checksShape : Shape :=
  { options := []
    operands := ["job"]
    accepts := fun _ value => (Job.ofName? value).isSome }

def packageShape : Shape :=
  { options := ["target", "profile"]
    operands := []
    accepts := fun name value => name != "profile" || (Profile.ofName? value).isSome }

def readChecks (arguments : List String) : Except ArgumentError Command := do
  let values ← checksShape.read arguments
  return .runChecks (((values.lookup "job").bind Job.ofName?).getD Job.standard)

def readPackage (arguments : List String) : Except ArgumentError Command := do
  let values ← packageShape.read arguments
  return .package ((values.lookup "target").getD standardTarget)
    (((values.lookup "profile").bind Profile.ofName?).getD Profile.standard)

/-- Help on a command is given by naming it, and a command has no commands of
its own. -/
def readHelp : List String → ArgumentError
  | [] => .displayHelp
  | [name] => if (helpName :: names).contains name then .displayHelp else .invalidSubcommand
  | _ => .invalidSubcommand

/-- Behind the lone pair of hyphens no command can follow. -/
def readEscaped : List String → ArgumentError
  | [] => .displayHelpOnMissing
  | name :: _ =>
    if (helpName :: names).contains name then .unknownArgument else .invalidSubcommand

/-- An argument in the place of a command that names none. -/
def readStranger (argument : String) (rest : List String) : ArgumentError :=
  match Token.of argument with
  | .escape => readEscaped rest
  | .long "help" none => .displayHelp
  | .long "help" (some _) => .tooManyValues
  | .long .. => .unknownArgument
  | .short letter => if letter = 'h' then .displayHelp else .unknownArgument
  | .word _ => .invalidSubcommand

/-- The command that a command line asks for. -/
def read : List String → Except ArgumentError Command
  | [] => .error .displayHelpOnMissing
  | "ci" :: rest => readChecks rest
  | "serverless-package" :: rest => readPackage rest
  | "help" :: rest => .error (readHelp rest)
  | argument :: rest => .error (readStranger argument rest)

end Command

end Pacing.Tasks
