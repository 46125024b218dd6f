import SealedKey.Log.Directive

/-!
# Log filters

A filter is a list of directives between commas.  Of those that apply to an event the most
specific one decides, and of equally specific ones the last: the event is shown if the
verbosity is high enough for its level.

A filter without directives shows errors only, and one that is malformed is taken for `info`.
-/

namespace SealedKey.Log

/-- A list of directives. -/
structure Filter where
  directives : List Directive
deriving DecidableEq, Repr

namespace Filter

/-- Shows events up to a verbosity, wherever they come from. -/
def upTo (verbosity : Nat) : Filter := ⟨[⟨none, none, none, verbosity⟩]⟩

/-- Shows errors only. -/
def errors : Filter := upTo 1

/-- Shows what matters to the user. -/
def info : Filter := upTo 3

/-- The filter of a text.  The first faulty directive decides the fault. -/
def ofText (text : String) : Except DirectiveFault Filter := do
  let directives ← ((text.toList.splitOn ',').filter (· ≠ [])).mapM Directive.ofText
  return if directives = [] then errors else ⟨directives⟩

/--
The filter of a setting.  Without one, and if it is malformed, `info` applies; there is no filter
if one of its parts begins or ends inside a character.
-/
def ofSetting? : Option String → Option Filter
  | none => some info
  | some text =>
    match ofText text with
    | .ok filter => some filter
    | .error .malformed => some info
    | .error .splitCharacter => none

/-- The more specific of two directives, and the later one if none is. -/
def moreSpecific (earlier : Option Directive) (later : Directive) : Option Directive :=
  match earlier with
  | none => some later
  | some earlier => if later.isBelow earlier then some earlier else some later

/-- The directive that decides on an event. -/
def decisive? (filter : Filter) (event : Event) : Option Directive :=
  (filter.directives.filter (·.appliesTo event)).foldl moreSpecific none

/-- Whether a filter shows an event. -/
def shows (filter : Filter) (event : Event) : Bool :=
  match filter.decisive? event with
  | some directive => event.level.verbosity ≤ directive.verbosity
  | none => false

/-- The lines of the events that a filter shows. -/
def render (filter : Filter) (time : String) (events : List Event) : String :=
  String.join ((events.filter filter.shows).map fun event => event.line time ++ "\n")

end Filter

end SealedKey.Log
