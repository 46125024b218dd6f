import SealedKey.Error

/-!
# Log events

A job tells what it does by events: a message with fields, at one of two levels.  Events are
values; which of them are shown, and where, is decided later (`SealedKey.Log.Filter`).
-/

namespace SealedKey.Log

/-- How much an event matters. -/
inductive Level where
  /-- Something was done that the user asked for. -/
  | info
  /-- A step on the way. -/
  | debug
deriving DecidableEq, Repr

namespace Level

/-- The name of a level, in five columns. -/
def label : Level → String
  | info => " INFO"
  | debug => "DEBUG"

/-- The verbosity from which on events of a level are shown. -/
def verbosity : Level → Nat
  | info => 3
  | debug => 4

end Level

/-- Something that happened. -/
structure Event where
  level : Level
  message : String
  /-- Names and values of what belongs to the message. -/
  fields : List (String × String)
deriving DecidableEq, Repr

namespace Event

/-- Where events come from, as filters name it. -/
def origin : String := "pemfixture::fixture"

/-- The names of the fields of an event.  The message is a field too. -/
def fieldNames (event : Event) : List String :=
  "message" :: event.fields.map Prod.fst

/-- An event in one line, after the time at which it happened. -/
def line (time : String) (event : Event) : String :=
  let fields := event.fields.map fun (name, value) => s!" {name}={value}"
  s!"{time} {event.level.label} {event.message}{String.join fields}"

end Event

/-- An optional text as the value of a field. -/
def optionalText : Option String → String
  | some text => s!"Some({quoted text})"
  | none => "None"

end SealedKey.Log
