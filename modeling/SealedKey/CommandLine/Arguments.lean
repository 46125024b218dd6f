import SealedKey.Fixture.Job
import SealedKey.Text.Terminal

/-!
# Command line arguments

The arguments are a mode and, after it, an optional directory.  Options stand anywhere
before `--`, which ends them; `-` alone is a value.

Arguments are read from left to right.  A help or version option ends the reading when
it is reached, and so does an argument that fits nowhere.  The value of a mode or a directory
is checked when the next value or such an option is reached, or at the end.
-/

namespace SealedKey.CommandLine

/-- What the program is asked for. -/
inductive Request where
  /-- A job on the fixture in a directory. -/
  | convert (direction : Direction) (dir : Option String)
  /-- The short help text. -/
  | shortHelp
  /-- The long help text. -/
  | longHelp
  /-- The name and the version of the program. -/
  | version
deriving DecidableEq, Repr

/-! ## Errors -/

/-- The two values that can be given. -/
inductive Parameter where
  | mode
  | dir
deriving DecidableEq, Repr

/-- How messages and help texts name a value. -/
def Parameter.label : Parameter → String
  | mode => "<MODE>"
  | dir => "[KEY_DIR]"

/-- Why arguments are refused. -/
inductive UsageError where
  /-- No mode is given. -/
  | missingMode
  /-- A value is empty. -/
  | emptyValue (parameter : Parameter)
  /-- There is no such mode. -/
  | invalidMode (value : String)
  /-- There is no such option, or a third value. -/
  | unexpectedArgument (argument : String)
  /-- A value is given to an option that takes none. -/
  | unexpectedValue (value option : String)
deriving DecidableEq, Repr

/-- How a message shows an argument: in quotes, as a terminal would show it. -/
def shown (argument : String) : String :=
  s!"'{Text.Terminal.visible argument}'"

/-- The text of an error in the arguments. -/
def UsageError.message : UsageError → String
  | missingMode => "the following required arguments were not provided:"
  | emptyValue parameter =>
    s!"a value is required for '{parameter.label}' but none was supplied"
  | invalidMode value => s!"invalid value {shown value} for '{Parameter.mode.label}'"
  | unexpectedArgument argument => s!"unexpected argument {shown argument} found"
  | unexpectedValue value option =>
    s!"unexpected value {shown value} for '{option}' found; no more were expected"

/-! ## Values -/

/-- The direction that a mode names. -/
def directionOfMode (value : String) : Except UsageError Direction :=
  if value = "encrypt" then return .encrypt
  else if value = "decrypt" then return .decrypt
  else if value = "check" then return .check
  else if value = "" then throw (.emptyValue .mode)
  else throw (.invalidMode value)

/-- The values so far.  The last of them is not checked yet. -/
inductive Values where
  | none
  | mode (value : String)
  | modeAndDir (direction : Direction) (dir : String)
deriving DecidableEq, Repr

namespace Values

/-- One more value. -/
def add : Values → String → Except UsageError Values
  | none, value => return mode value
  | mode given, value => return modeAndDir (← directionOfMode given) value
  | modeAndDir _ _, value => throw (.unexpectedArgument value)

/-- Checks the last value. -/
def check : Values → Except UsageError Unit
  | none => return ()
  | mode given => do let _ ← directionOfMode given
  | modeAndDir _ dir => if dir = "" then throw (.emptyValue .dir) else return ()

/-- The job that the values ask for, when there are no more. -/
def request (values : Values) : Except UsageError Request := do
  values.check
  match values with
  | none => throw .missingMode
  | mode given => return .convert (← directionOfMode given) .none
  | modeAndDir direction dir => return .convert direction (some dir)

end Values

/-! ## Options -/

/-- What an argument is before the end of the options. -/
inductive Argument where
  /-- A value. -/
  | value
  /-- The end of the options. -/
  | endOfOptions
  /-- A help or version option. -/
  | asks (request : Request)
  /-- Something that fits nowhere. -/
  | refused (cause : UsageError)

namespace Argument

/-- An option with a long name.  A value may follow it after an equals sign. -/
def ofLongName (text : List Char) : Argument :=
  let (name, rest) := text.span (· ≠ '=')
  let name := String.ofList name
  let known := fun (request : Request) =>
    match rest with
    | [] => asks request
    | _ :: given => refused (.unexpectedValue (String.ofList given) ("--" ++ name))
  if name = "help" then known .longHelp
  else if name = "version" then known .version
  else refused (.unexpectedArgument ("--" ++ name))

/-- Options with short names after one dash.  The first of them decides. -/
def ofShortName (name : Char) : Argument :=
  if name = 'h' then asks .shortHelp
  else if name = 'V' then asks .version
  else refused (.unexpectedArgument (String.ofList ['-', name]))

/-- What a text is as an argument. -/
def ofString (text : String) : Argument :=
  match text.toList with
  | ['-', '-'] => endOfOptions
  | '-' :: '-' :: name => ofLongName name
  | '-' :: name :: _ => ofShortName name
  | _ => value

end Argument

/-! ## All arguments -/

namespace Request

/-- The rest of the arguments, after some values. -/
def ofRest (values : Values) : List String → Except UsageError Request
  | [] => values.request
  | text :: rest =>
    match Argument.ofString text with
    | .value => do ofRest (← values.add text) rest
    | .endOfOptions => do (← rest.foldlM Values.add values).request
    | .asks request => do
      values.check
      return request
    | .refused cause => throw cause

/-- What the arguments ask for. -/
def ofArguments (arguments : List String) : Except UsageError Request :=
  ofRest .none arguments

end Request

end SealedKey.CommandLine
