import SealedKey.Bytes

/-!
# Tags of DER elements

A tag is one byte.  The universal tags are those of the known types; the other
three classes carry a number below 31 and a bit that says whether the element
is constructed from other elements.
-/

namespace SealedKey.Der

/-- The classes of tags whose meaning the surrounding type decides. -/
inductive TagClass where
  | application
  | contextSpecific
  | privateUse
deriving DecidableEq, Repr

/-- The tag of a DER element. -/
inductive Tag where
  | boolean
  | integer
  | bitString
  | octetString
  | null
  | objectIdentifier
  | real
  | enumerated
  | utf8String
  | numericString
  | printableString
  | teletexString
  | videotexString
  | ia5String
  | utcTime
  | generalizedTime
  | visibleString
  | bmpString
  | sequence
  | set
  /-- A tag outside the universal class. -/
  | numbered (cls : TagClass) (constructed : Bool) (number : Fin 31)
deriving DecidableEq, Repr

namespace TagClass

/-- The two high bits of a tag byte. -/
def bits : TagClass → UInt8
  | application => 0x40
  | contextSpecific => 0x80
  | privateUse => 0xC0

/-- The class in capitals. -/
def name : TagClass → String
  | application => "APPLICATION"
  | contextSpecific => "CONTEXT-SPECIFIC"
  | privateUse => "PRIVATE"

end TagClass

namespace Tag

/-- The universal tags. -/
def universal : List Tag :=
  [boolean, integer, bitString, octetString, null, objectIdentifier, real, enumerated, utf8String,
    numericString, printableString, teletexString, videotexString, ia5String, utcTime,
    generalizedTime, visibleString, bmpString, sequence, set]

/-- The byte of a tag. -/
def byte : Tag → UInt8
  | boolean => 0x01
  | integer => 0x02
  | bitString => 0x03
  | octetString => 0x04
  | null => 0x05
  | objectIdentifier => 0x06
  | real => 0x09
  | enumerated => 0x0A
  | utf8String => 0x0C
  | numericString => 0x12
  | printableString => 0x13
  | teletexString => 0x14
  | videotexString => 0x15
  | ia5String => 0x16
  | utcTime => 0x17
  | generalizedTime => 0x18
  | visibleString => 0x1A
  | bmpString => 0x1E
  | sequence => 0x30
  | set => 0x31
  | numbered cls constructed number =>
    cls.bits + (if constructed then 0x20 else 0) + UInt8.ofNat number

/-- The name of a tag. -/
def name : Tag → String
  | boolean => "BOOLEAN"
  | integer => "INTEGER"
  | bitString => "BIT STRING"
  | octetString => "OCTET STRING"
  | null => "NULL"
  | objectIdentifier => "OBJECT IDENTIFIER"
  | real => "REAL"
  | enumerated => "ENUMERATED"
  | utf8String => "UTF8String"
  | numericString => "NumericString"
  | printableString => "PrintableString"
  | teletexString => "TeletexString"
  | videotexString => "VideotexString"
  | ia5String => "IA5String"
  | utcTime => "UTCTime"
  | generalizedTime => "GeneralizedTime"
  | visibleString => "VisibleString"
  | bmpString => "BMPString"
  | sequence => "SEQUENCE"
  | set => "SET"
  | numbered cls constructed number =>
    s!"{cls.name} [{number}] " ++ (if constructed then "(constructed)" else "(primitive)")

/-- The class that the two high bits of a byte name, if it is not the universal class. -/
def classOf? (byte : UInt8) : Option TagClass :=
  if byte < 0x40 then none
  else if byte < 0x80 then some .application
  else if byte < 0xC0 then some .contextSpecific
  else some .privateUse

/-- The number in the low five bits of a byte; all ones announce a longer form. -/
def numberOf? (byte : UInt8) : Option (Fin 31) :=
  if h : (byte % 32).toNat < 31 then some ⟨(byte % 32).toNat, h⟩ else none

/-- The tag with this byte, if there is one. -/
def ofByte? (byte : UInt8) : Option Tag :=
  match numberOf? byte, classOf? byte with
  | none, _ => none
  | some number, some cls => some (numbered cls (byte / 32 % 2 = 1) number)
  | some _, none => universal.find? (·.byte = byte)

/-- The number of the first optional field of a type. -/
def firstField : Fin 31 := 0

/-- The number of the second optional field of a type. -/
def secondField : Fin 31 := 1

/-- The context-specific tag with this number that is constructed. -/
abbrev explicit (number : Fin 31) : Tag :=
  numbered .contextSpecific true number

/-- The context-specific tag with this number that is primitive. -/
abbrev implicit (number : Fin 31) : Tag :=
  numbered .contextSpecific false number

end Tag

end SealedKey.Der
