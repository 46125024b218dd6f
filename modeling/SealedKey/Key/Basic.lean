import SealedKey.Ec.Key
import SealedKey.Ed25519.Key
import SealedKey.Key.Algorithm
import SealedKey.Pkcs8.PrivateKeyInfo
import SealedKey.Rsa.Key

/-!
# Private keys

A private key is typed for RSA, the named curves and Ed25519.  A private key document of
any other algorithm is kept as it is, together with what was read from it.

The types of the typed keys carry the relations that make them keys, so a value of
`PrivateKey` is always a key that some document can hold.
-/

namespace SealedKey

/-- A private key document that is kept byte for byte. -/
structure UntypedKey where
  /-- The bytes of the document. -/
  document : Bytes
  /-- What the document says. -/
  info : Pkcs8.PrivateKeyInfo
  ofDer_document : Pkcs8.PrivateKeyInfo.ofDer document = .ok info

/-- A private key. -/
inductive PrivateKey where
  | rsa (key : Rsa.Key)
  | ec (key : Ec.Key)
  | ed25519 (key : Ed25519.Key)
  /-- A key of another algorithm. -/
  | untyped (key : UntypedKey)

namespace PrivateKey

/-- The algorithm of a key. -/
def algorithm : PrivateKey → KeyAlgorithm
  | rsa key => .rsa key.bits
  | ec key => .ecdsa key.curve
  | ed25519 _ => .ed25519
  | untyped key => .other key.info.algorithm.oid

/-- The key as a value, without its secrets. -/
def debug (key : PrivateKey) : String :=
  "PrivateKey \x7b algorithm: " ++ key.algorithm.debug ++ ", .. \x7d"

end PrivateKey

end SealedKey
