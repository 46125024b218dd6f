import SealedKey.Der.Reader

/-!
# Algorithm identifiers

An algorithm is named by an object identifier and may have one parameter of any
type.  This module also holds the identifiers of the key algorithms that have
typed keys.
-/

namespace SealedKey.Pkcs8

/-- An algorithm with its parameters. -/
structure AlgorithmIdentifier where
  /-- The name of the algorithm. -/
  oid : Oid
  /-- The parameters, not looked into. -/
  parameters : Option Der.Element
deriving DecidableEq, Repr

namespace AlgorithmIdentifier

/-- The DER form. -/
def encode (algorithm : AlgorithmIdentifier) : Bytes :=
  Der.sequence [Der.oid algorithm.oid, algorithm.parameters.elim [] Der.Element.encode]

/-- Reads an algorithm identifier. -/
def read : Der.Reader AlgorithmIdentifier :=
  Der.Reader.sequence do
    let oid ← Der.Reader.oid
    return ⟨oid, ← Der.Reader.any?⟩

end AlgorithmIdentifier

/-- The null value as a parameter. -/
def nullParameter : Der.Element := ⟨.null, []⟩

/-- An object identifier as a parameter. -/
def oidParameter (oid : Oid) : Der.Element := ⟨.objectIdentifier, oid.encoding⟩

/-! ## Key algorithms -/

/-- RSA keys: 1.2.840.113549.1.1.1. -/
def rsaEncryption : Oid := ⟨[0x2A, 0x86, 0x48, 0x86, 0xF7, 0x0D, 0x01, 0x01, 0x01], by decide⟩

/-- Keys on elliptic curves: 1.2.840.10045.2.1. -/
def ecPublicKey : Oid := ⟨[0x2A, 0x86, 0x48, 0xCE, 0x3D, 0x02, 0x01], by decide⟩

/-- Ed25519 keys: 1.3.101.112. -/
def ed25519 : Oid := ⟨[0x2B, 0x65, 0x70], by decide⟩

end SealedKey.Pkcs8
