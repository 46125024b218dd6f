import SealedKey.Ec.Curve
import SealedKey.Oid.Names

/-!
# Key algorithms

What a key is a key of: RSA with a modulus of some length, a named curve, Ed25519, or an
algorithm that is known by its identifier only.
-/

namespace SealedKey

/-- The algorithm of a key. -/
inductive KeyAlgorithm where
  /-- RSA with a modulus of this many bits. -/
  | rsa (bits : Nat)
  /-- Signatures on a named curve. -/
  | ecdsa (curve : Ec.Curve)
  | ed25519
  /-- Any other algorithm. -/
  | other (oid : Oid)
deriving DecidableEq, Repr

namespace KeyAlgorithm

/-- The name of an algorithm for people. -/
def describe : KeyAlgorithm → String
  | rsa bits => s!"RSA-{bits}"
  | ecdsa .p256 => "ECDSA P-256"
  | ecdsa .p384 => "ECDSA P-384"
  | ecdsa .p521 => "ECDSA P-521"
  | ed25519 => "Ed25519"
  | other oid => oid.describe

/-- The algorithm as a value. -/
def debug : KeyAlgorithm → String
  | rsa bits => "Rsa \x7b bits: " ++ toString bits ++ " \x7d"
  | ecdsa .p256 => "EcdsaP256"
  | ecdsa .p384 => "EcdsaP384"
  | ecdsa .p521 => "EcdsaP521"
  | ed25519 => "Ed25519"
  | other oid => "Other \x7b oid: ObjectIdentifier(" ++ toString oid ++ ") \x7d"

end KeyAlgorithm

end SealedKey
