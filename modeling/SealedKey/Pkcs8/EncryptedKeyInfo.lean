import SealedKey.Pkcs5.Reader

/-!
# Encrypted private key documents

An encryption scheme, and a private key document encrypted with it.
-/

namespace SealedKey.Pkcs8

/-- An encrypted private key document. -/
structure EncryptedKeyInfo where
  /-- How the document is encrypted. -/
  scheme : Pkcs5.Scheme
  /-- The encrypted document. -/
  encrypted : Bytes
deriving DecidableEq, Repr

namespace EncryptedKeyInfo

/-- The DER form of a document that a scheme of the second kind encrypts. -/
def encode (scheme : Pkcs5.Pbes2) (encrypted : Bytes) : Bytes :=
  Der.sequence [scheme.encode, Der.octetString encrypted]

/-- Reads the fields of an encrypted private key document. -/
def readFields : Der.Reader EncryptedKeyInfo := do
  let scheme ← Pkcs5.Scheme.read
  return ⟨scheme, ← Der.Reader.octets⟩

/-- The encrypted private key that a document holds. -/
def ofDer (document : Bytes) : Except Der.Error EncryptedKeyInfo :=
  Der.Reader.run (Der.Reader.sequence readFields) document

end EncryptedKeyInfo

end SealedKey.Pkcs8
