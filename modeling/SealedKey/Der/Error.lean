import SealedKey.Der.Tag
import SealedKey.Oid.Basic

/-!
# Errors of DER documents

The reasons why a byte string is no DER document of the wanted type, and why a
value has no DER form.
-/

namespace SealedKey.Der

/-- Why a DER document cannot be read or written. -/
inductive Error where
  /-- A tag byte announces a number of more than five bits. -/
  | tagNumber
  /-- A tag byte of the universal class that is not known. -/
  | unknownTag (byte : UInt8)
  /-- The length byte 128. -/
  | indefiniteLength
  /-- A length that is not written in its shortest form, or wrong for the type. -/
  | length (tag : Tag)
  /-- A length above the limit. -/
  | overflow
  /-- A tag in a place for another one. -/
  | unexpectedTag (expected : Option Tag) (actual : Tag)
  /-- An element that ends before its contents do; both numbers are offsets. -/
  | incomplete (expected actual : Nat)
  /-- Bytes behind the last field of an element. -/
  | trailingData (decoded remaining : Nat)
  /-- Contents that are not written in the one admitted form. -/
  | nonCanonical (tag : Tag)
  /-- Contents that mean nothing for the type. -/
  | malformed (tag : Tag)
  /-- Contents that are no object identifier. -/
  | malformedOid
  /-- An object identifier that has no meaning in its place. -/
  | unknownOid (oid : Oid)
deriving DecidableEq, Repr

/-- A byte as two hexadecimal digits. -/
def hexByte (byte : UInt8) : String :=
  String.ofList [Nat.digitChar (byte.toNat / 16), Nat.digitChar (byte.toNat % 16)]

/-- The text of an error. -/
def Error.message : Error → String
  | tagNumber => "invalid tag number"
  | unknownTag byte => s!"unknown/unsupported ASN.1 DER tag: 0x" ++ hexByte byte
  | indefiniteLength => "indefinite length disallowed"
  | length tag => s!"incorrect length for {tag.name}"
  | overflow => "integer overflow"
  | unexpectedTag (some expected) actual =>
    s!"unexpected ASN.1 DER tag: expected {expected.name}, got {actual.name}"
  | unexpectedTag none actual => s!"unexpected ASN.1 DER tag: got {actual.name}"
  | incomplete expected actual =>
    s!"ASN.1 DER message is incomplete: expected {expected}, actual {actual}"
  | trailingData decoded remaining =>
    s!"trailing data at end of DER message: decoded {decoded} bytes, {remaining} bytes remaining"
  | nonCanonical tag => s!"ASN.1 {tag.name} not canonically encoded as DER"
  | malformed tag => s!"malformed ASN.1 DER value for {tag.name}"
  | malformedOid => "malformed OID"
  | unknownOid oid => s!"unknown/unsupported OID: {oid}"

end SealedKey.Der
