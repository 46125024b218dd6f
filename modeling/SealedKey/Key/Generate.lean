import SealedKey.Error
import SealedKey.Key.Basic
import SealedKey.Rsa.Generate

/-!
# Generating private keys

Keys are made from drawn bytes: scalars and seeds directly, RSA keys by a search for
primes.
-/

namespace SealedKey

/-- Draws a key on a curve: as many bytes as a scalar has, until they are in range. -/
def Ec.Key.generate (curve : Curve) : Draw Key :=
  Draw.untilSome do
    return ofScalar? curve (BigEndian.toNat (← Draw.bytes curve.size))

/-- Draws an Ed25519 key: its seed. -/
def Ed25519.Key.generate : Draw Key :=
  Draw.untilSome do
    return ofSeed? (← Draw.bytes seedSize)

namespace PrivateKey

/-- Draws an RSA key whose modulus has `bits` bits. -/
def generateRsa (bits : Nat) : Draw (Except Error PrivateKey) := do
  match ← Rsa.Key.generate bits with
  | .ok key => return .ok (rsa key)
  | .error cause => return .error (.keyGeneration cause.message)

/-- Draws a key on a curve. -/
def generateEc (curve : Ec.Curve) : Draw PrivateKey := do
  return ec (← Ec.Key.generate curve)

/-- Draws an Ed25519 key. -/
def generateEd25519 : Draw PrivateKey := do
  return ed25519 (← Ed25519.Key.generate)

end PrivateKey

end SealedKey
