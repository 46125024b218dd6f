import SealedKey.Der.Error

/-!
# Writing DER

An element is its tag byte, its length in the shortest form, and its contents.
The writers are total; a document is a byte string within the length limit.
Since an element is never longer than the document around it, this one check
covers all lengths inside.
-/

namespace SealedKey.Der

/-- The greatest length of a document or of any element in it. -/
def maxLength : Nat := 0x0FFFFFFF

/-- The shortest form of a length. -/
def lengthBytes (length : Nat) : Bytes :=
  if length < 0x80 then [UInt8.ofNat length]
  else
    let digits := BigEndian.ofNat length
    UInt8.ofNat (0x80 + digits.length) :: digits

/-- An element with this tag and these contents. -/
def element (tag : Tag) (contents : Bytes) : Bytes :=
  tag.byte :: lengthBytes contents.length ++ contents

/-- A byte string as a document, if it is not too long for one. -/
def document (bytes : Bytes) : Except Error Bytes :=
  if bytes.length ≤ maxLength then return bytes else throw .overflow

/-! ## Elements of the known types -/

/-- A sequence of elements, given one after the other. -/
def sequence (fields : List Bytes) : Bytes :=
  element .sequence fields.flatten

/-- The contents of a natural number: a zero byte stands before a high first bit. -/
def integerBytes (n : Nat) : Bytes :=
  match BigEndian.ofNat n with
  | [] => [0]
  | first :: rest => if first < 0x80 then first :: rest else 0 :: first :: rest

/-- A natural number. -/
def integer (n : Nat) : Bytes :=
  element .integer (integerBytes n)

/-- An octet string. -/
def octetString (bytes : Bytes) : Bytes :=
  element .octetString bytes

/-- A bit string of whole bytes: no bit of the last one is unused. -/
def bitString (bytes : Bytes) : Bytes :=
  element .bitString (0 :: bytes)

/-- An object identifier. -/
def oid (oid : Oid) : Bytes :=
  element .objectIdentifier oid.encoding

end SealedKey.Der
