import SealedKey.Der.Reader

/-!
# RSA keys in PKCS#1 form

A private key document lists the modulus, both exponents, two primes, and three numbers
that speed up decryption.  A document of the second version holds further primes,
which are checked for their form only.
-/

namespace SealedKey.Rsa

/-- The numbers of a private key document. -/
structure Document where
  modulus : Nat
  publicExponent : Nat
  privateExponent : Nat
  prime₁ : Nat
  prime₂ : Nat
  exponent₁ : Nat
  exponent₂ : Nat
  coefficient : Nat
  /-- There are further primes. -/
  multiPrime : Bool
deriving DecidableEq, Repr

namespace Document

/-- The DER form of a document with two primes. -/
def encode (document : Document) : Bytes :=
  Der.sequence [
    Der.integer 0,
    Der.integer document.modulus,
    Der.integer document.publicExponent,
    Der.integer document.privateExponent,
    Der.integer document.prime₁,
    Der.integer document.prime₂,
    Der.integer document.exponent₁,
    Der.integer document.exponent₂,
    Der.integer document.coefficient]

/-- Reads a further prime with its exponent and coefficient, and drops them. -/
def readFurtherPrime : Der.Reader Unit :=
  Der.Reader.sequence do
    let _ ← Der.Reader.natural
    let _ ← Der.Reader.natural
    let _ ← Der.Reader.natural
    return ()

/-- Reads the list of further primes, if there is one. -/
def readFurtherPrimes : Der.Reader (Option (List Unit)) :=
  Der.Reader.optional .sequence (Der.Reader.sequence (Der.Reader.many readFurtherPrime))

/-- Reads the fields of a document. -/
def readFields : Der.Reader Document := do
  let version ← Der.Reader.unsigned 1
  if 1 < version then throw (.malformed .integer)
  let modulus ← Der.Reader.natural
  let publicExponent ← Der.Reader.natural
  let privateExponent ← Der.Reader.natural
  let prime₁ ← Der.Reader.natural
  let prime₂ ← Der.Reader.natural
  let exponent₁ ← Der.Reader.natural
  let exponent₂ ← Der.Reader.natural
  let coefficient ← Der.Reader.natural
  let multiPrime := (← readFurtherPrimes).isSome
  if multiPrime ≠ (version = 1) then throw (.malformed .integer)
  return {
    modulus, publicExponent, privateExponent, prime₁, prime₂, exponent₁, exponent₂, coefficient,
    multiPrime }

/-- The document that bytes hold. -/
def ofDer (bytes : Bytes) : Except Der.Error Document :=
  Der.Reader.run (Der.Reader.sequence readFields) bytes

end Document

/-! ## Public keys -/

/-- The numbers of a public key. -/
structure PublicKey where
  modulus : Nat
  exponent : Nat
deriving DecidableEq, Repr

namespace PublicKey

/-- The DER form. -/
def encode (key : PublicKey) : Bytes :=
  Der.sequence [Der.integer key.modulus, Der.integer key.exponent]

/-- The public key that bytes hold. -/
def ofDer (bytes : Bytes) : Except Der.Error PublicKey :=
  Der.Reader.run (Der.Reader.sequence do
    let modulus ← Der.Reader.natural
    return ⟨modulus, ← Der.Reader.natural⟩) bytes

end PublicKey

end SealedKey.Rsa
