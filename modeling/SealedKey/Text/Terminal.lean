import SealedKey.Bytes

/-!
# Texts on a terminal

A terminal obeys control characters and escape sequences instead of showing them.  Text that
may hold any of them is shown without them, whatever it is shown on.

* `State` says what sequence is being read, and `State.step` reads one character of it.
* `Reader` can leave a sequence for some text and come back to it; `Reader.step` reads one
  character of anything.
* `visible` is what is left of a text.
-/

namespace SealedKey.Text.Terminal

/-! ## Characters -/

/-- The blank control characters. -/
def isControlBlank (c : Char) : Bool :=
  c ∈ ['\t', '\n', '\x0C', '\r']

/-- Whether a character of the text itself is shown. -/
def isShown (c : Char) : Bool :=
  isControlBlank c || (' ' ≤ c && c ≠ '\x7F')

/-- The byte that terminates a string, even as a part of a character beyond ASCII. -/
def stringTerminator : UInt8 := 0x9C

/-! ## Sequences -/

/-- The sequence that is being read. -/
inductive State where
  /-- None: the text itself. -/
  | ground
  /-- An escape sequence. -/
  | escape
  /-- An escape sequence that has begun with a character which selects no kind of it. -/
  | escapeRest
  /-- A control sequence: parameters before a final character. -/
  | control
  /-- The start of a device control string. -/
  | device
  /-- The parameters of a device control string. -/
  | deviceParameters
  /-- What stands between these parameters and the final character. -/
  | deviceRest
  /-- A string that a string terminator ends. -/
  | string
  /-- An operating system command, which a bell ends. -/
  | command
deriving DecidableEq, Repr

namespace State

/-- The state after a character that may be the final one, from `first` on, of a sequence. -/
def final (state : State) (first : Char) (c : Char) : State :=
  if first ≤ c && c ≤ '~' then .ground else state

/-- The state after the first character of an escape sequence. -/
def select (c : Char) : State :=
  if c = '[' then .control
  else if c = ']' then .command
  else if c = 'P' then .device
  else if c ∈ ['X', '^', '_'] then .string
  else if ' ' ≤ c && c ≤ '/' then .escapeRest
  else escape.final '0' c

/-- The state after a character before the data of a device control string. -/
def deviceHeader (state : State) (c : Char) : State :=
  if ' ' ≤ c && c ≤ '/' then .deviceRest
  else if '0' ≤ c && c ≤ ';' then
    if state = .deviceRest then .string else .deviceParameters
  else if '<' ≤ c && c ≤ '?' then
    if state = .device then .deviceParameters else .string
  else if '@' ≤ c && c ≤ '~' then .string
  else state

/--
The state after a character.  An escape character begins a sequence anywhere, and two others
end all sequences and strings.
-/
def step (state : State) (c : Char) : State :=
  if c = '\x1B' then .escape
  else if c = '\x18' ∨ c = '\x1A' then .ground
  else
    match state with
    | .ground => .ground
    | .escape => select c
    | .escapeRest => escapeRest.final '0' c
    | .control => control.final '@' c
    | .device | .deviceParameters | .deviceRest => state.deviceHeader c
    | .string => if stringTerminator ∈ Bytes.ofChars [c] then .ground else .string
    | .command => if c = '\x07' then .ground else .command

/-- Whether a blank control character interrupts a sequence, instead of being a part of it. -/
def isInterruptible : State → Bool
  | .escape | .escapeRest | .control => true
  | _ => false

end State

/-! ## Reading -/

/-- A reader of a text with sequences. -/
structure Reader where
  state : State
  /-- The sequence has been left for some text. -/
  isInterrupted : Bool
deriving DecidableEq, Repr

namespace Reader

/-- The reader before a text. -/
def start : Reader := ⟨.ground, false⟩

/--
The reader after a character, and whether the character is shown.  A blank control character
interrupts a sequence.  What follows it is text, up to the next control character that is not
blank: this one belongs to the sequence again.  A character beyond ASCII in such a text gives
the sequence up.
-/
def step (reader : Reader) (c : Char) : Reader × Bool :=
  if (reader.state = .ground || reader.isInterrupted) && isShown c then
    (if c.toNat < 0x80 then reader else start, true)
  else if reader.state.isInterruptible && isControlBlank c then
    (⟨reader.state, true⟩, true)
  else (⟨reader.state.step c, false⟩, false)

end Reader

/-- The shown characters of a text. -/
def shown (reader : Reader) : List Char → List Char
  | [] => []
  | c :: rest =>
    let (next, isShown) := reader.step c
    if isShown then c :: shown next rest else shown next rest

/-- What a terminal shows of a text. -/
def visible (text : String) : String :=
  String.ofList (shown .start text.toList)

end SealedKey.Text.Terminal
