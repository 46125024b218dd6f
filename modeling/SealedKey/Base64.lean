import SealedKey.Bytes

/-!
# Base64

The standard alphabet with canonical padding.  Three bytes become four
sextets (numbers below 64), one or two bytes at the end become two or three
sextets, and `=` fills the last group.

Encoding goes from bytes to characters.  Decoding goes from bytes to bytes,
since a text that is no Base64 is reported by the offset and the value of the
offending byte of its UTF-8 form.  It is strict: the padding must be there, and
the bits that the last symbol does not need must be zero.
-/

namespace SealedKey.Base64

/-! ## The alphabet -/

/-- The symbol of a sextet: upper case letters, lower case letters, digits, `+`, `/`. -/
def symbol (sextet : UInt8) : Char :=
  if sextet < 26 then Char.ofNat (sextet.toNat + 65)
  else if sextet < 52 then Char.ofNat (sextet.toNat + 71)
  else if sextet < 62 then Char.ofNat (sextet.toNat - 4)
  else if sextet = 62 then '+' else '/'

/-- The sextet of a symbol, given as a byte. -/
def sextet? (byte : UInt8) : Option UInt8 :=
  if 65 ≤ byte ∧ byte ≤ 90 then some (byte - 65)
  else if 97 ≤ byte ∧ byte ≤ 122 then some (byte - 71)
  else if 48 ≤ byte ∧ byte ≤ 57 then some (byte + 4)
  else if byte = 43 then some 62
  else if byte = 47 then some 63
  else none

/-- The padding byte `=`. -/
def pad : UInt8 := 61

/-! ## Sextets and bytes -/

/-- The sextets of a byte string. -/
def split (bytes : Bytes) : List UInt8 :=
  go [] bytes
where
  /-- Puts the sextets of the bytes before those of `done`, which holds them last first. -/
  go (done : List UInt8) : Bytes → List UInt8
    | a :: b :: c :: rest =>
      go (c % 64 :: (b % 16 * 4 + c / 64) :: (a % 4 * 16 + b / 16) :: a / 4 :: done) rest
    | [a, b] => ((b % 16 * 4) :: (a % 4 * 16 + b / 16) :: a / 4 :: done).reverse
    | [a] => ((a % 4 * 16) :: a / 4 :: done).reverse
    | [] => done.reverse

/-- The bytes of a list of sextets; bits that make no whole byte are dropped. -/
def join (sextets : List UInt8) : Bytes :=
  go [] sextets
where
  /-- Puts the bytes of the sextets before those of `done`, which holds them last first. -/
  go (done : Bytes) : List UInt8 → Bytes
    | a :: b :: c :: d :: rest =>
      go ((c % 4 * 64 + d) :: (b % 16 * 16 + c / 4) :: (a * 4 + b / 16) :: done) rest
    | [a, b, c] => ((b % 16 * 16 + c / 4) :: (a * 4 + b / 16) :: done).reverse
    | [a, b] => ((a * 4 + b / 16) :: done).reverse
    | _ => done.reverse

/-- The bits of the last sextet that belong to no byte, when `count` sextets are joined. -/
def spareBits (count : Nat) (last : UInt8) : UInt8 :=
  if count % 4 = 2 then last % 16
  else if count % 4 = 3 then last % 4
  else 0

/-! ## Encoding -/

/-- The Base64 form of `bytes` without padding. -/
def encodeUnpadded (bytes : Bytes) : List Char :=
  (split bytes).map symbol

/-- The Base64 form of `bytes`, filled to whole groups of four. -/
def encode (bytes : Bytes) : List Char :=
  encodeUnpadded bytes ++ List.replicate ((3 - bytes.length % 3) % 3) '='

/-! ## Decoding -/

/-- Why a text is no Base64.  Offsets count bytes from the start of the text. -/
inductive Error where
  /-- A byte outside the alphabet, or padding in a wrong place. -/
  | invalidByte (byte : UInt8) (offset : Nat)
  /-- The last group has a single symbol. -/
  | invalidLength (length : Nat)
  /-- The last group is not filled with padding. -/
  | invalidPadding
  /-- The last symbol has bits that belong to no byte. -/
  | invalidLastSymbol (byte : UInt8) (offset : Nat)
deriving DecidableEq, Repr

/-- The text of a decoding error. -/
def Error.message : Error → String
  | .invalidByte byte offset => s!"Invalid symbol {byte}, offset {offset}."
  | .invalidLength length => s!"Invalid input length: {length}"
  | .invalidPadding => "Invalid padding"
  | .invalidLastSymbol byte offset => s!"Invalid last symbol {byte}, offset {offset}."

/-- The sextets of a text that has symbols only; `offset` is the place of its first byte. -/
def sextets (offset : Nat) (text : Bytes) : Except Error (List UInt8) :=
  match text.zipIdx offset |>.find? fun (byte, _) => (sextet? byte).isNone with
  | some (byte, place) => throw (.invalidByte byte place)
  | none => return text.filterMap sextet?

/-- Fails if the text ends in a lone byte of a fifth kind: neither a symbol nor padding. -/
def checkStray (text : Bytes) : Except Error Unit :=
  match text.getLast? with
  | none => return ()
  | some last =>
    if text.length % 4 = 1 ∧ last ≠ pad ∧ sextet? last = none then
      throw (.invalidByte last (text.length - 1))
    else return ()

/-- The number of bytes before the last group, which has one to four bytes. -/
def lastGroup (length : Nat) : Nat :=
  length - (if length % 4 = 0 then 4 else length % 4)

/--
The sextets of the last group, which stands at `offset`.  Padding may only
close the group, and only after its first two symbols.
-/
def lastSextets (offset : Nat) (group : Bytes) : Except Error (List UInt8) := do
  let symbols := group.takeWhile (· ≠ pad)
  let padding := group.dropWhile (· ≠ pad)
  let values ← sextets offset symbols
  if padding ≠ [] ∧ (symbols.length < 2 ∨ padding.any (· ≠ pad)) then
    throw (.invalidByte pad (offset + symbols.length))
  if symbols.length < 2 then
    throw (.invalidLength (offset + symbols.length))
  if (symbols.length + padding.length) % 4 ≠ 0 then
    throw .invalidPadding
  match symbols.getLast?, values.getLast? with
  | some byte, some value =>
    if spareBits symbols.length value ≠ 0 then
      throw (.invalidLastSymbol byte (offset + symbols.length - 1))
    return values
  | _, _ => return values

/-- The bytes that a Base64 text stands for. -/
def decode (text : Bytes) : Except Error Bytes := do
  if text = [] then return []
  checkStray text
  let offset := lastGroup text.length
  let body ← sextets 0 (text.take offset)
  let last ← lastSextets offset (text.drop offset)
  return join (body ++ last)

end SealedKey.Base64
