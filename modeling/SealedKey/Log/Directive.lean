import SealedKey.Log.Event
import SealedKey.Log.Pattern
import SealedKey.Text.Slice
import SealedKey.Text.WhiteSpace

/-!
# Directives of log filters

A directive is written `target[span{field=value}]=verbosity`, and most of it can be left out.
It is about the events whose origin starts with the target, which happen inside the span and
have the field with this value.  A verbosity can stand alone, and without one a directive
shows everything.

The verbosities are `off`, `error`, `warn`, `info`, `debug` and `trace` in any case, or their
numbers from 0 to 5.

* `Directive.ofText` reads a directive, or says in what way it is wrong.
* `Directive.appliesTo` says which events a directive is about.
* `Directive.isBelow` says which of two directives is less specific.
-/

namespace SealedKey.Log

/-! ## Verbosities -/

/-- The names of verbosities from 0 on. -/
def verbosityNames : List String :=
  ["off", "error", "warn", "info", "debug", "trace"]

/-- The verbosity that shows everything. -/
def maxVerbosity : Nat := 5

/-- The verbosity that a number writes; a plus sign may stand before it. -/
def verbosityOfNumber? (text : List Char) : Option Nat :=
  let digits := match text with
    | '+' :: digits => digits
    | digits => digits
  if digits ≠ [] ∧ digits.all Char.isDigit then
    let number := digits.foldl (fun n c => n * 10 + (c.toNat - '0'.toNat)) 0
    if number ≤ maxVerbosity then some number else none
  else none

/-- The verbosity that a text names. -/
def verbosity? (text : List Char) : Option Nat :=
  verbosityOfNumber? text <|> verbosityNames.idxOf? (String.ofList text).toLower

/-! ## Directives -/

/-- A field that events must have. -/
structure FieldTest where
  name : String
  /-- Whether the field must have a certain value. -/
  isValued : Bool
deriving DecidableEq, Repr

/-- A verbosity for some of the events. -/
structure Directive where
  target : Option String
  span : Option String
  field : Option FieldTest
  verbosity : Nat
deriving DecidableEq, Repr

/-- What is wrong with a directive. -/
inductive DirectiveFault where
  /-- It is not written as a directive. -/
  | malformed
  /-- One of its parts begins or ends inside a character. -/
  | splitCharacter
deriving DecidableEq, Repr

namespace Directive

/-! ## Reading a directive

White space around a directive is skipped to find its parts.  The parts are then taken from
the text with its white space, at the same places, so that they are shifted if it starts
with any. -/

/-- The part of a text between two places. -/
def part (text : List Char) (first last : Nat) : Except DirectiveFault (List Char) :=
  match Text.slice? first last text with
  | some part => .ok part
  | none => .error .splitCharacter

/-- Whether a target or a verbosity may start with a character. -/
def mayStart (c : Char) : Bool :=
  Text.isAlphanumeric c || c ∈ ['-', ':', '_']

/-- Reads a verbosity.  Without one everything is shown. -/
def verbosityOfText (text : List Char) : Except DirectiveFault Nat :=
  if text = [] then .ok maxVerbosity
  else match verbosity? text with
    | some verbosity => .ok verbosity
    | none => .error .malformed

/-- Reads the end of a directive, which is at a place: nothing, or an equals sign and a verbosity. -/
def ending (text : List Char) (place : Nat) : List Char → Except DirectiveFault Nat
  | [] => .ok maxVerbosity
  | '=' :: _ => do verbosityOfText (← part text (place + 1) (Text.byteLength text))
  | _ => .error .malformed

/-- Reads the test of a field.  What follows a second equals sign is ignored. -/
def fieldTest (text : List Char) : Except DirectiveFault FieldTest :=
  let (name, rest) := text.span (· ≠ '=')
  let value := (rest.drop 1).takeWhile (· ≠ '=')
  if text ≠ [] ∧ Pattern.isValue value then .ok ⟨String.ofList name, rest ≠ []⟩
  else .error .malformed

/-- Reads the rest of a directive after the opening bracket, from a place on. -/
def inBrackets (text : List Char) (target : Option String) (place : Nat) (rest : List Char) :
    Except DirectiveFault Directive :=
  let (name, rest) := rest.span fun c => c ≠ ']' ∧ c ≠ '\x7b'
  let nameEnd := place + Text.byteLength name
  match rest with
  | [] => .error .malformed
  | ']' :: rest => do
    let span ← part text place nameEnd
    let verbosity ← ending text (nameEnd + 1) rest
    return ⟨target, some (String.ofList span), none, verbosity⟩
  | _ :: rest => do
    let span ← part text place nameEnd
    let (test, rest) := rest.span (· ≠ '\x7d')
    let testEnd := nameEnd + 1 + Text.byteLength test
    if rest = [] then throw .malformed
    let field ← fieldTest (← part text (nameEnd + 1) testEnd)
    match rest.drop 1 with
    | ']' :: rest =>
      let verbosity ← ending text (testEnd + 2) rest
      let span := if span = [] then none else some (String.ofList span)
      return ⟨target, span, some field, verbosity⟩
    | _ => throw .malformed

/-- Reads a directive. -/
def ofText (text : List Char) : Except DirectiveFault Directive :=
  match Text.trim text with
  | [] => .error .malformed
  | '[' :: rest => inBrackets text none 1 rest
  | first :: rest =>
    if !mayStart first then .error .malformed
    else
      let (target, rest) := (first :: rest).span fun c => c ≠ '=' ∧ c ≠ '['
      let targetEnd := Text.byteLength target
      match rest with
      | [] =>
        match verbosity? text with
        | some verbosity => .ok ⟨none, none, none, verbosity⟩
        | none => .ok ⟨some (String.ofList text), none, none, maxVerbosity⟩
      | '[' :: rest => do
        let target ← part text 0 targetEnd
        inBrackets text (some (String.ofList target)) (targetEnd + 1) rest
      | rest => do
        let target ← part text 0 targetEnd
        let verbosity ← ending text targetEnd rest
        return ⟨some (String.ofList target), none, none, verbosity⟩

/-! ## What a directive is about -/

/--
Whether a directive applies to an event.  No event happens inside a span, and the values
of fields are compared for spans only.
-/
def appliesTo (directive : Directive) (event : Event) : Bool :=
  directive.span = none &&
    directive.target.all (·.toList.isPrefixOf Event.origin.toList) &&
    directive.field.all fun field => !field.isValued && event.fieldNames.contains field.name

/-- How much a target says: a longer one says more, and any target more than none. -/
def targetWeight (directive : Directive) : Nat :=
  match directive.target with
  | some target => target.utf8ByteSize + 1
  | none => 0

/--
Whether a directive is less specific than another one that applies to the same event.  Targets
count first, then fields; of two fields the first by name counts less.
-/
def isBelow (left right : Directive) : Bool :=
  left.targetWeight < right.targetWeight ||
    left.targetWeight = right.targetWeight &&
      match left.field, right.field with
      | none, some _ => true
      | some left, some right => left.name < right.name
      | _, none => false

end Directive

end SealedKey.Log
