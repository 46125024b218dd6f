import SealedKey.Text.Alphanumeric

/-!
# Patterns

The value of a field can be given as a number or as a pattern, that is a regular expression.
Here it is only checked that a text is one of the two.

A pattern is read character by character.  It knows alternatives, groups with options or a
name, the repetitions `*`, `+` and `?`, classes in brackets with ranges and classes inside,
and escapes for characters and for the ends of a text.  It knows nothing that needs tables of
characters, such as word boundaries or classes of digits, and no counted repetitions.
-/

namespace SealedKey.Log.Pattern

/-! ## Escapes -/

/-- What a character means after a backslash. -/
inductive Escaped where
  /-- A character. -/
  | literal (c : Char)
  /-- The character whose code has so many hexadecimal digits, which follow. -/
  | code (digits : Nat)
  /-- An end of the text. -/
  | anchor
deriving DecidableEq, Repr

/-- The letters that stand for control characters after a backslash. -/
def controlLetters : List (Char × Char) :=
  [('a', '\x07'), ('f', '\x0C'), ('n', '\n'), ('r', '\r'), ('t', '\t'), ('v', '\x0B')]

/-- The meaning of a character after a backslash, if it has one. -/
def escaped? (c : Char) : Option Escaped :=
  if let some control := controlLetters.lookup c then some (.literal control)
  else if c = 'x' then some (.code 2)
  else if c = 'u' then some (.code 4)
  else if c = 'U' then some (.code 8)
  else if c = 'A' ∨ c = 'z' then some .anchor
  else if 127 < c.toNat ∨ c.isAlphanum ∨ c = '<' ∨ c = '>' then none
  else some (.literal c)

/-- The value of a hexadecimal digit. -/
def hexValue? (c : Char) : Option Nat :=
  if c.isDigit then some (c.toNat - '0'.toNat)
  else if 'a' ≤ c && c ≤ 'f' then some (c.toNat - 'a'.toNat + 10)
  else if 'A' ≤ c && c ≤ 'F' then some (c.toNat - 'A'.toNat + 10)
  else none

/-- The character with a code. -/
def charOfCode? (code : Nat) : Option Char :=
  if code.isValidChar then some (Char.ofNat code) else none

/-! ## Reading a pattern -/

/-- What is being read. -/
inductive Place where
  /-- Items, of which the last one may be repeated or not. -/
  | items (repeatable : Bool)
  /-- What follows a backslash. -/
  | escape
  /-- The hexadecimal digits of a code. -/
  | code (left value : Nat)
  /-- What follows an opening parenthesis. -/
  | group
  /-- The options of a group.  After a minus sign they are switched off. -/
  | options (given : List Char)
  /-- What follows the letter that announces a name. -/
  | nameStart
  /-- The name of a group. -/
  | name (isEmpty : Bool)
  /-- The start of a class, inside so many others. -/
  | classStart (outer : Nat) (mayNegate isEmpty : Bool)
  /-- The items of a class, after a character that may begin a range. -/
  | classItems (outer : Nat) (last : Option Char)
  /-- The end of a range. -/
  | rangeEnd (outer : Nat) (first : Char)
  /-- What follows a backslash in a class, maybe as the end of a range. -/
  | classEscape (outer : Nat) (first : Option Char)
  /-- The hexadecimal digits of a code in a class. -/
  | classCode (outer : Nat) (first : Option Char) (left value : Nat)
deriving DecidableEq, Repr

/-- What has been read: so many groups are open. -/
structure State where
  groups : Nat
  place : Place
deriving DecidableEq, Repr

namespace State

/-- The state before a pattern. -/
def start : State := ⟨0, .items false⟩

/-- The options of groups. -/
def optionLetters : List Char := ['m', 's', 'U', 'u', 'R', 'x']

/-- A step among items. -/
def stepItem (groups : Nat) (repeatable : Bool) (c : Char) : Option State :=
  match c with
  | '\\' => some ⟨groups, .escape⟩
  | '(' => some ⟨groups, .group⟩
  | ')' => if groups = 0 then none else some ⟨groups - 1, .items true⟩
  | '[' => some ⟨groups, .classStart 0 true true⟩
  | '|' => some ⟨groups, .items false⟩
  | '*' | '+' | '?' => if repeatable then some ⟨groups, .items true⟩ else none
  | '\x7b' => none
  | _ => some ⟨groups, .items true⟩

/-- A step in the options of a group: `given` are the options so far, last first. -/
def stepOption (groups : Nat) (given : List Char) (c : Char) : Option State :=
  if c = ':' then
    if given.head? = some '-' then none else some ⟨groups + 1, .items false⟩
  else if c = ')' then
    if given = [] ∨ given.head? = some '-' then none else some ⟨groups, .items false⟩
  else if (c ∈ optionLetters ∨ c = '-') ∧ c ∉ given then some ⟨groups, .options (c :: given)⟩
  else if given = [] ∧ c = 'P' then some ⟨groups, .nameStart⟩
  else if given = [] ∧ c = '<' then some ⟨groups, .name true⟩
  else none

/-- A step in the name of a group. -/
def stepName (groups : Nat) (isEmpty : Bool) (c : Char) : Option State :=
  if c = '>' then
    if isEmpty then none else some ⟨groups + 1, .items false⟩
  else if Text.isAlphanumeric c ∨ c = '_' ∨ c ∈ ['.', '[', ']'] then
    if isEmpty ∧ (c.isDigit ∨ c ∈ ['.', '[', ']']) then none else some ⟨groups, .name false⟩
  else none

/-- The state after the end of a class. -/
def closeClass (groups outer : Nat) : State :=
  if outer = 0 then ⟨groups, .items true⟩ else ⟨groups, .classItems (outer - 1) none⟩

/-- The state after a character of a class that stands for itself or ends a range. -/
def addToClass (groups outer : Nat) (first : Option Char) (c : Char) : Option State :=
  match first with
  | none => some ⟨groups, .classItems outer (some c)⟩
  | some first => if first ≤ c then some ⟨groups, .classItems outer none⟩ else none

/--
A step among the items of a class.  A minus sign begins a range only after a character, and
two of the signs that combine classes begin none.
-/
def stepClass (groups outer : Nat) (last : Option Char) (c : Char) : Option State :=
  match c, last with
  | '[', _ => some ⟨groups, .classStart (outer + 1) true true⟩
  | ']', _ => some (closeClass groups outer)
  | '\\', _ => some ⟨groups, .classEscape outer none⟩
  | '-', some first => some ⟨groups, .rangeEnd outer first⟩
  | '-', none | '&', some '&' | '~', some '~' => some ⟨groups, .classItems outer none⟩
  | c, _ => some ⟨groups, .classItems outer (some c)⟩

/-- A step at the start of a class, where some characters stand for themselves. -/
def stepClassStart (groups outer : Nat) (mayNegate isEmpty : Bool) (c : Char) : Option State :=
  if c = '^' ∧ mayNegate then some ⟨groups, .classStart outer false true⟩
  else if c = '-' then some ⟨groups, .classStart outer false false⟩
  else if c = ']' ∧ isEmpty then some ⟨groups, .classItems outer none⟩
  else stepClass groups outer none c

/-- A step at the end of a range: a bracket or a second minus sign shows that there is none. -/
def stepRangeEnd (groups outer : Nat) (first : Char) (c : Char) : Option State :=
  match c with
  | ']' => some (closeClass groups outer)
  | '-' => some ⟨groups, .classItems outer none⟩
  | '\\' => some ⟨groups, .classEscape outer (some first)⟩
  | c => addToClass groups outer (some first) c

/-- A step after a backslash in a class, where no end of the text can stand. -/
def stepClassEscape (groups outer : Nat) (first : Option Char) (c : Char) : Option State := do
  match ← escaped? c with
  | .literal c => addToClass groups outer first c
  | .code digits => return ⟨groups, .classCode outer first digits 0⟩
  | .anchor => none

/-- A step after a backslash. -/
def stepEscape (groups : Nat) (c : Char) : Option State := do
  match ← escaped? c with
  | .literal _ | .anchor => return ⟨groups, .items true⟩
  | .code digits => return ⟨groups, .code digits 0⟩

/-- The state after one more character, if it can stand there. -/
def step (state : State) (c : Char) : Option State :=
  let groups := state.groups
  match state.place with
  | .items repeatable => stepItem groups repeatable c
  | .escape => stepEscape groups c
  | .code left value => do
    let value := value * 16 + (← hexValue? c)
    if 1 < left then return ⟨groups, .code (left - 1) value⟩
    (charOfCode? value).map fun _ => ⟨groups, .items true⟩
  | .group =>
    if c = '?' then some ⟨groups, .options []⟩ else stepItem (groups + 1) false c
  | .options given => stepOption groups given c
  | .nameStart => if c = '<' then some ⟨groups, .name true⟩ else none
  | .name isEmpty => stepName groups isEmpty c
  | .classStart outer mayNegate isEmpty => stepClassStart groups outer mayNegate isEmpty c
  | .classItems outer last => stepClass groups outer last c
  | .rangeEnd outer first => stepRangeEnd groups outer first c
  | .classEscape outer first => stepClassEscape groups outer first c
  | .classCode outer first left value => do
    let value := value * 16 + (← hexValue? c)
    if 1 < left then return ⟨groups, .classCode outer first (left - 1) value⟩
    addToClass groups outer first (← charOfCode? value)

/-- Whether a pattern may end here. -/
def isFinal (state : State) : Bool :=
  match state.place with
  | .items _ => state.groups = 0
  | _ => false

end State

/-- Whether a text is a pattern. -/
def isPattern (text : List Char) : Bool :=
  (text.foldlM State.step State.start).any State.isFinal

/-! ## Numbers -/

/-- The names of numbers without digits, in lower case. -/
def numberNames : List String := ["inf", "infinity", "nan"]

/-- Whether a text is an exponent: digits after a letter, and maybe a sign. -/
def isExponent : List Char → Bool
  | letter :: rest =>
    let digits := match rest with
      | '+' :: digits | '-' :: digits => digits
      | digits => digits
    (letter = 'e' || letter = 'E') && digits ≠ [] && digits.all Char.isDigit
  | [] => false

/-- Whether a text is a decimal number without a sign. -/
def isDecimal (text : List Char) : Bool :=
  let (whole, rest) := text.span Char.isDigit
  let (fraction, rest) := match rest with
    | '.' :: rest => rest.span Char.isDigit
    | rest => ([], rest)
  whole ++ fraction ≠ [] && (rest = [] || isExponent rest)

/-- Whether a text is a number, maybe with a sign. -/
def isNumber (text : List Char) : Bool :=
  let unsigned := match text with
    | '+' :: rest | '-' :: rest => rest
    | rest => rest
  isDecimal unsigned || numberNames.contains (String.ofList unsigned).toLower

/-- Whether a text says which value a field must have. -/
def isValue (text : List Char) : Bool :=
  isNumber text || isPattern text

end SealedKey.Log.Pattern
