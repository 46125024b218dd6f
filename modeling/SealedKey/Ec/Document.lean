import SealedKey.Der.Reader

/-!
# Private keys of elliptic curves in SEC1 form

The document has the scalar as an octet string, and may name the curve and
hold the public key.
-/

namespace SealedKey.Ec

/-- A private key document of an elliptic curve. -/
structure Document where
  /-- The scalar, most significant byte first. -/
  scalar : Bytes
  /-- The curve. -/
  curve : Option Oid
  /-- The public key. -/
  publicKey : Option Bytes
deriving DecidableEq, Repr

namespace Document

/-- The number of the field that names the curve. -/
def curveField : Fin 31 := Der.Tag.firstField

/-- The number of the field with the public key. -/
def publicKeyField : Fin 31 := Der.Tag.secondField

/-- The only version. -/
def version : Nat := 1

/-- The DER form. -/
def encode (document : Document) : Bytes :=
  Der.sequence [
    Der.integer version,
    Der.octetString document.scalar,
    document.curve.elim [] fun oid => Der.element (.explicit curveField) (Der.oid oid),
    document.publicKey.elim [] fun bytes =>
      Der.element (.explicit publicKeyField) (Der.bitString bytes)]

/-- Reads the fields of a document. -/
def readFields : Der.Reader Document := do
  if (← Der.Reader.unsigned 1) ≠ version then throw (.malformed .integer)
  let scalar ← Der.Reader.octets
  let curve ← Der.Reader.explicitField curveField Der.Reader.oid
  let bits? ← Der.Reader.explicitField publicKeyField Der.Reader.bits
  return ⟨scalar, curve, ← bits?.mapM fun bits => liftM bits.whole⟩

/-- The document that bytes hold. -/
def ofDer (bytes : Bytes) : Except Der.Error Document :=
  Der.Reader.run (Der.Reader.sequence readFields) bytes

end Document

end SealedKey.Ec
