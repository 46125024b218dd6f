import SealedKey.Hash.Hmac

/-!
# PBKDF2

A key is derived from a passphrase by chains of a keyed hash.  Each chain starts
from the salt and a number, and contributes the XOR of all its links to the key.
-/

namespace SealedKey.Kdf

/-- The bitwise exclusive or of two byte strings. -/
def xorBytes (l₁ l₂ : Bytes) : Bytes :=
  l₁.zipWith (· ^^^ ·) l₂

/-- A keyed hash together with the size of its results. -/
structure KeyedHash where
  /-- The number of bytes of a result. -/
  size : Nat
  /-- The result for a message. -/
  mac : Bytes → Bytes

/-- The keyed hash of a hash function under a passphrase. -/
def KeyedHash.hmac {σ : Type} (hash : Hash σ) (passphrase : Bytes) : KeyedHash where
  size := hash.size
  mac := (Hash.HmacKey.ofBytes hash passphrase).mac hash

/-- Follows a chain for `count` links behind `last`, and adds them to `total`. -/
def chain (mac : Bytes → Bytes) : (count : Nat) → (last total : Bytes) → Bytes
  | 0, _, total => total
  | count + 1, last, total =>
    let next := mac last
    chain mac count next (xorBytes total next)

/--
A key of `length` bytes from a salt.  A chain has `iterations` links, but always the
first one.
-/
def pbkdf2 (keyed : KeyedHash) (salt : Bytes) (iterations length : Nat) : Bytes :=
  let parts := (List.range ((length + keyed.size - 1) / keyed.size)).flatMap fun i =>
    let first := keyed.mac (salt ++ BigEndian.padded 4 (i + 1))
    chain keyed.mac (iterations - 1) first first
  parts.take length

end SealedKey.Kdf
