import SealedKey.Pkcs8.AlgorithmIdentifier

/-!
# Private key documents

`PrivateKeyInfo` is the unencrypted PKCS#8 document: an algorithm, the private
key in a form of the algorithm's own, and in version 2 the public key.

Reading accepts more than writing produces: fields with other numbers may stand
before and behind the public key.  They are checked and dropped.
-/

namespace SealedKey.Pkcs8

/-- A private key of some algorithm. -/
structure PrivateKeyInfo where
  /-- The algorithm of the key. -/
  algorithm : AlgorithmIdentifier
  /-- The private key in the form of its algorithm. -/
  privateKey : Bytes
  /-- The public key, which only documents of version 2 have. -/
  publicKey : Option Bytes
deriving DecidableEq, Repr

namespace PrivateKeyInfo

/-- The number of the public key field. -/
def publicKeyField : Fin 31 := Der.Tag.secondField

/-- The number that stands for the version: `1` with a public key, `0` without. -/
def version (info : PrivateKeyInfo) : Nat :=
  if info.publicKey.isSome then 1 else 0

/-- The public key as a bit string whose tag is the number of its field. -/
def publicKeyElement (publicKey : Bytes) : Bytes :=
  Der.element (.implicit publicKeyField) (0 :: publicKey)

/-- The DER form. -/
def encode (info : PrivateKeyInfo) : Bytes :=
  Der.sequence [
    Der.integer info.version,
    info.algorithm.encode,
    Der.octetString info.privateKey,
    info.publicKey.elim [] publicKeyElement]

/-- Reads the fields of a private key document. -/
def readFields : Der.Reader PrivateKeyInfo := do
  let version ← Der.Reader.unsigned 1
  if 1 < version then throw (.malformed .integer)
  let algorithm ← AlgorithmIdentifier.read
  let privateKey ← Der.Reader.octets
  let bits? ← Der.Reader.implicitBits publicKeyField
  let publicKey ← bits?.mapM fun bits => liftM bits.whole
  let info : PrivateKeyInfo := ⟨algorithm, privateKey, publicKey⟩
  if info.version ≠ version then throw (.malformed (.explicit publicKeyField))
  let _ ← Der.Reader.many Der.Reader.extension
  return info

/-- The private key that a document holds. -/
def ofDer (document : Bytes) : Except Der.Error PrivateKeyInfo :=
  Der.Reader.run (Der.Reader.sequence readFields) document

end PrivateKeyInfo

end SealedKey.Pkcs8
