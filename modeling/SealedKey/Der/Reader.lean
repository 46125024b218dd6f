import SealedKey.Der.Writer

/-!
# Reading DER

A reader consumes bytes from a cursor, which knows how far it is from the start
of the document.  The bytes of a cursor are those of the innermost element that
is being read, so their end is the end of that element.

* `Reader.byte` and `Reader.take` consume bytes, `Reader.header` a tag with a
  length.
* `Reader.nested` reads the contents of an element to their end.
* `Reader.natural`, `Reader.octets`, `Reader.bits`, `Reader.oid` and
  `Reader.any` read one element of a type, `Reader.many` all that are left.
* `Reader.optional` reads a field that its tag announces; `Reader.explicitField`
  and `Reader.implicitBits` read one that has a number.
* `Reader.run` reads a whole document.
-/

namespace SealedKey.Der

/-- A place in a document and the bytes from there to the end of the innermost element. -/
structure Cursor where
  /-- The number of bytes from the start of the document. -/
  offset : Nat
  /-- The bytes that are left in the innermost element. -/
  rest : Bytes
deriving DecidableEq, Repr

/-- A reader of DER. -/
abbrev Reader := StateT Cursor (Except Error)

/-- An element of any type. -/
structure Element where
  /-- The tag of the element. -/
  tag : Tag
  /-- The contents, not looked into. -/
  contents : Bytes
deriving DecidableEq, Repr

/-- The DER form of an element. -/
def Element.encode (e : Element) : Bytes :=
  element e.tag e.contents

/-- A bit string: some bits of its last byte may be unused. -/
structure Bits where
  /-- The number of unused bits in the last byte. -/
  unused : UInt8
  /-- The bytes that hold the bits. -/
  bytes : Bytes
deriving DecidableEq, Repr

/-- The bytes of a bit string that fills whole bytes. -/
def Bits.whole (bits : Bits) : Except Error Bytes :=
  if bits.unused = 0 then return bits.bytes else throw (.malformed .bitString)

namespace Reader

/-! ## Bytes, tags and lengths -/

/-- The error for `count` bytes wanted at a cursor that does not have them. -/
def shortage (cursor : Cursor) (count : Nat) : Error :=
  if cursor.offset + count ≤ maxLength then
    .incomplete (cursor.offset + count) (cursor.offset + cursor.rest.length)
  else .overflow

/-- The next `count` bytes. -/
def take (count : Nat) : Reader Bytes := fun cursor =>
  match Bytes.split? count cursor.rest with
  | some (bytes, rest) => .ok (bytes, ⟨cursor.offset + count, rest⟩)
  | none => .error (shortage cursor count)

/-- The next byte. -/
def byte : Reader UInt8 := fun cursor =>
  match cursor.rest with
  | next :: rest => .ok (next, ⟨cursor.offset + 1, rest⟩)
  | [] => .error (shortage cursor 1)

/-- Whether all bytes of the innermost element are consumed. -/
def atEnd : Reader Bool := fun cursor =>
  .ok (cursor.rest.isEmpty, cursor)

/-- The tag with this byte. -/
def tagOfByte (byte : UInt8) : Except Error Tag :=
  match Tag.ofByte? byte with
  | some tag => return tag
  | none => throw (if Tag.numberOf? byte = none then .tagNumber else .unknownTag byte)

/-- The tag that comes next, which is not consumed. -/
def peekTag? : Reader (Option Tag) := fun cursor =>
  match cursor.rest with
  | next :: _ => (tagOfByte next).map fun tag => (some tag, cursor)
  | [] => .ok (none, cursor)

/-- The length of an element whose tag was just read. -/
def length (tag : Tag) : Reader Nat := do
  let first ← byte
  if first < 0x80 then return first.toNat
  else if first = 0x80 then throw .indefiniteLength
  else if 0x84 < first then throw (.length tag)
  else
    let value := BigEndian.toNat (← bytewise (first.toNat - 0x80))
    if maxLength < value then throw .overflow
    else if (lengthBytes value).head? ≠ some first then throw (.length tag)
    else return value
where
  /-- Reads `count` bytes one by one. -/
  bytewise : Nat → Reader Bytes
    | 0 => return []
    | count + 1 => return (← byte) :: (← bytewise count)

/-- The tag and the length of the next element. -/
def header : Reader (Tag × Nat) := do
  let tag ← tagOfByte (← byte)
  return (tag, ← length tag)

/-- The length of the next element, which must have this tag. -/
def expect (tag : Tag) : Reader Nat := do
  let (actual, count) ← header
  if actual = tag then return count else throw (.unexpectedTag tag actual)

/-! ## Nesting -/

/-- Fails if bytes are left behind the last field, out of `total`. -/
def finish (total : Nat) (rest : Bytes) : Except Error Unit :=
  if rest.isEmpty then return ()
  else throw (.trailingData (total - rest.length) rest.length)

/-- Reads the next `count` bytes, the contents of an element, to their end. -/
def nested {α : Type} (count : Nat) (read : Reader α) : Reader α := do
  let cursor ← get
  let contents ← take count
  let (value, inner) ← read.run ⟨cursor.offset, contents⟩
  finish count inner.rest
  return value

/-- A sequence, whose fields `read` consumes. -/
def sequence {α : Type} (read : Reader α) : Reader α := do
  nested (← expect .sequence) read

/-- A whole document: one value and nothing behind it. -/
def run {α : Type} (read : Reader α) (input : Bytes) : Except Error α := do
  let input ← document input
  let (value, cursor) ← StateT.run read ⟨0, input⟩
  finish input.length cursor.rest
  return value

/--
Reads values until the end of the innermost element.  Each of them has at least one
byte, so there are never more of them than bytes.
-/
def many {α : Type} (read : Reader α) : Reader (List α) := do
  go (← get).rest.length []
where
  /-- Reads at most `fuel` values; `done` holds those read so far, last first. -/
  go : (fuel : Nat) → (done : List α) → Reader (List α)
    | 0, done => return done.reverse
    | fuel + 1, done => do
      if ← atEnd then return done.reverse
      else go fuel ((← read) :: done)

/-! ## Elements -/

/-- The next element, whatever it is. -/
def any : Reader Element := do
  let (tag, count) ← header
  return ⟨tag, ← take count⟩

/-- The value of a sequence whose fields `read` consumes, from an element read before. -/
def ofSequence {α : Type} (read : Reader α) (e : Element) : Except Error α :=
  if e.tag = .sequence then run read e.contents
  else throw (.unexpectedTag (some .sequence) e.tag)

/-- The next element, or nothing at the end. -/
def any? : Reader (Option Element) := do
  if ← atEnd then return none else return some (← any)

/-- An octet string. -/
def octets : Reader Bytes := do
  take (← expect .octetString)

/-- The object identifier that contents write. -/
def oidOfBytes (contents : Bytes) : Except Error Oid :=
  match Oid.ofBytes? contents with
  | some oid => return oid
  | none => throw .malformedOid

/-- An object identifier. -/
def oid : Reader Oid := do
  let count ← expect .objectIdentifier
  if Oid.maxLength < count then throw (.length .objectIdentifier)
  else oidOfBytes (← take count)

/-- The bit string whose contents are the next `count` bytes. -/
def bitsOf (count : Nat) : Reader Bits := do
  if count = 0 then throw .overflow
  let unused ← byte
  let bytes ← take (count - 1)
  if 7 < unused ∨ (unused ≠ 0 ∧ bytes = []) then throw (.malformed .bitString)
  else return ⟨unused, bytes⟩

/-- A bit string. -/
def bits : Reader Bits := do
  bitsOf (← expect .bitString)

/-! ## Numbers -/

/-- The digits of a natural number in its contents, without the sign byte. -/
def digits (contents : Bytes) : Except Error Bytes :=
  match contents with
  | [] => throw (.nonCanonical .integer)
  | [single] => if single < 0x80 then return [single] else throw (.malformed .integer)
  | first :: second :: rest =>
    if first = 0 then
      if second < 0x80 then throw (.nonCanonical .integer) else return second :: rest
    else if first < 0x80 then return first :: second :: rest
    else throw (.malformed .integer)

/-- A natural number of any size. -/
def natural : Reader Nat := do
  let contents ← take (← expect .integer)
  return BigEndian.toNat (← digits contents)

/-- A natural number of at most `width` bytes. -/
def unsigned (width : Nat) : Reader Nat := do
  let count ← expect .integer
  if width + 1 < count then throw (.nonCanonical .integer)
  let bytes ← digits (← take count)
  if width < bytes.length then throw (.length .integer)
  else return BigEndian.toNat bytes

/-! ## Optional fields -/

/-- A value whose element has this tag, if such an element comes next. -/
def optional {α : Type} (tag : Tag) (read : Reader α) : Reader (Option α) := do
  if (← peekTag?) = some tag then return some (← read) else return none

/--
Skips context-specific elements with a smaller number, and says whether the one
with this number comes next.
-/
def seek (number : Fin 31) : Reader Bool := do
  go (← get).rest.length
where
  /-- Skips at most `fuel` elements, of which each has at least one byte. -/
  go : (fuel : Nat) → Reader Bool
    | 0 => return false
    | fuel + 1 => do
      match ← peekTag? with
      | some (.numbered .contextSpecific _ next) =>
        if next < number then
          let _ ← any
          go fuel
        else return next = number
      | _ => return false

/-- The optional field with this number, wrapped around the element that `read` consumes. -/
def explicitField {α : Type} (number : Fin 31) (read : Reader α) : Reader (Option α) := do
  unless ← seek number do return none
  let (tag, count) ← header
  if tag = .explicit number then return some (← nested count read)
  else throw (.unexpectedTag none tag)

/-- The optional field with this number, a bit string whose tag the number replaces. -/
def implicitBits (number : Fin 31) : Reader (Option Bits) := do
  unless ← seek number do return none
  let (tag, count) ← header
  let bits ← bitsOf count
  if tag = .implicit number then return some bits
  else throw (.nonCanonical tag)

/-- A field with any number, wrapped around one element of any type. -/
def extension : Reader Element := do
  let (tag, count) ← header
  match tag with
  | .numbered .contextSpecific true _ => nested count any
  | _ => throw (.unexpectedTag none tag)

end Reader

end SealedKey.Der
