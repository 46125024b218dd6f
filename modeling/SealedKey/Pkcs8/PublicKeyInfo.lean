import SealedKey.Pkcs8.AlgorithmIdentifier

/-!
# Public key documents

`PublicKeyInfo` is the subject public key info: an algorithm and the public key
in the form of that algorithm.
-/

namespace SealedKey.Pkcs8

/-- A public key of some algorithm. -/
structure PublicKeyInfo where
  /-- The algorithm of the key. -/
  algorithm : AlgorithmIdentifier
  /-- The public key in the form of its algorithm. -/
  publicKey : Bytes
deriving DecidableEq, Repr

namespace PublicKeyInfo

/-- The DER form. -/
def encode (info : PublicKeyInfo) : Bytes :=
  Der.sequence [info.algorithm.encode, Der.bitString info.publicKey]

/-- Reads a public key document. -/
def read : Der.Reader PublicKeyInfo :=
  Der.Reader.sequence do
    let algorithm ← AlgorithmIdentifier.read
    let bits ← Der.Reader.bits
    return ⟨algorithm, ← liftM bits.whole⟩

/-- The public key that a document holds. -/
def ofDer (document : Bytes) : Except Der.Error PublicKeyInfo :=
  Der.Reader.run read document

end PublicKeyInfo

end SealedKey.Pkcs8
