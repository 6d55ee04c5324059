/-! Command-line arguments. Options can stand anywhere among the other arguments, a value follows its
option or an equals sign, and `--` ends the options. -/
namespace LeastGrant

/-- An option of a command. -/
structure OptionSpec where
  long : String
  short : Option Char
  takesValue : Bool
  deriving DecidableEq, Repr

/-- An option without a value. -/
def OptionSpec.flag (long : String) : OptionSpec := ⟨long, none, false⟩

/-- An option with a value. -/
def OptionSpec.value (long : String) (short : Option Char) : OptionSpec := ⟨long, short, true⟩

/-- Why arguments make no sense. -/
inductive UsageError where
  | unknownOption (option : String)
  | missingValue (option : String)
  | unexpectedValue (option : String)
  | missingCommand
  | unknownCommand (name : String)
  | missingArgument (name : String)
  | missingOption (option : String)
  | unexpectedArgument (argument : String)
  | unusablePath (argument : String)
  deriving DecidableEq, Repr

def UsageError.message : UsageError → String
  | .unknownOption option => s!"No such option: {option}"
  | .missingValue option => s!"Option '{option}' requires an argument."
  | .unexpectedValue option => s!"Option '{option}' does not take a value."
  | .missingCommand => "Missing command."
  | .unknownCommand name => s!"No such command '{name}'."
  | .missingArgument name => s!"Missing argument '{name}'."
  | .missingOption option => s!"Missing option '{option}'."
  | .unexpectedArgument argument => s!"Got unexpected extra argument ({argument})"
  | .unusablePath argument => s!"Invalid path: {argument}"

/-- An option that was given, by its long name. The value of a flag is empty. -/
structure Given where
  option : String
  value : String
  deriving DecidableEq, Repr

/-- What a single argument is. -/
inductive ArgumentKind where
  | positional
  | endOfOptions
  | options (given : List Given)
  /-- Options of which the last has its value in the next argument. -/
  | awaiting (given : List Given) (option : String)
  | wrong (error : UsageError)

/-- A long option, perhaps with a value after an equals sign. -/
def longOption? (specs : List OptionSpec) (argument : String) : Option ArgumentKind :=
  let name := argument.toList.takeWhile (· != '=')
  let value := (argument.toList.drop name.length).tail?.map String.ofList
  let name := String.ofList name
  match specs.find? fun spec => spec.long == name with
  | none => none
  | some spec => some (match spec.takesValue, value with
    | true, some value => .options [⟨spec.long, value⟩]
    | true, none => .awaiting [] spec.long
    | false, none => .options [⟨spec.long, ""⟩]
    | false, some _ => .wrong (.unexpectedValue spec.long))

/-- Short options in one argument. What follows one that takes a value is its value. -/
def shortOptions (specs : List OptionSpec) : (given : List Given) → List Char → ArgumentKind
  | given, [] => .options given
  | given, c :: rest =>
    match specs.find? fun spec => spec.short == some c with
    | none => .wrong (.unknownOption (String.ofList ['-', c]))
    | some spec =>
      if spec.takesValue then
        if rest.isEmpty then .awaiting given spec.long
        else .options (given ++ [⟨spec.long, String.ofList rest⟩])
      else shortOptions specs (given ++ [⟨spec.long, ""⟩]) rest

/-- What a single argument is for a command with some options. -/
def classify (specs : List OptionSpec) (argument : String) : ArgumentKind :=
  match argument.toList with
  | ['-', '-'] => .endOfOptions
  | '-' :: '-' :: _ => (longOption? specs argument).getD (.wrong (.unknownOption argument))
  | '-' :: c :: rest => shortOptions specs [] (c :: rest)
  | _ => .positional

/-- Arguments taken apart: the options that were given, and all else. -/
structure Arguments where
  given : List Given
  positional : List String
  deriving DecidableEq, Repr

namespace Arguments

def addGiven (given : List Given) (arguments : Arguments) : Arguments :=
  { arguments with given := given ++ arguments.given }

def addPositional (argument : String) (arguments : Arguments) : Arguments :=
  { arguments with positional := argument :: arguments.positional }

/-- Takes arguments apart. With `mixed` unset, the first argument that is no option ends the
options. -/
def parse (specs : List OptionSpec) (mixed : Bool) : List String → Except UsageError Arguments
  | [] => .ok ⟨[], []⟩
  | argument :: rest =>
    match classify specs argument with
    | .endOfOptions => .ok ⟨[], rest⟩
    | .positional =>
      if mixed then (parse specs mixed rest).map (addPositional argument)
      else .ok ⟨[], argument :: rest⟩
    | .options given => (parse specs mixed rest).map (addGiven given)
    | .awaiting given option =>
      match rest with
      | [] => .error (.missingValue option)
      | value :: later => (parse specs mixed later).map (addGiven (given ++ [⟨option, value⟩]))
    | .wrong error => .error error

/-- All values of an option. -/
def values (arguments : Arguments) (option : String) : List String :=
  (arguments.given.filter fun given => given.option == option).map Given.value

/-- The last value of an option. -/
def value? (arguments : Arguments) (option : String) : Option String :=
  (arguments.values option).getLast?

def has (arguments : Arguments) (option : String) : Bool :=
  !(arguments.values option).isEmpty

/-- An argument that is no option is kept among the others. -/
theorem parse_positional (specs : List OptionSpec) (argument : String) (rest : List String)
    (h : classify specs argument = .positional) :
    parse specs true (argument :: rest) = (parse specs true rest).map (addPositional argument) := by
  simp [parse, h]

end Arguments

end LeastGrant
