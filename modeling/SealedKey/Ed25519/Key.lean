import SealedKey.Ed25519.Curve
import SealedKey.Hash.Sha512

/-!
# Ed25519 keys

A private key is a seed of 32 bytes.  The first half of its digest, with some bits
fixed, is the scalar of the public key.
-/

namespace SealedKey.Ed25519

/-- The number of bytes of a seed. -/
def seedSize : Nat := 32

/-- A private key. -/
structure Key where
  /-- The seed from which the key is made. -/
  seed : Bytes
  length_seed : seed.length = seedSize
deriving DecidableEq

namespace Key

/-- The key with this seed, if it has the right length. -/
def ofSeed? (seed : Bytes) : Option Key :=
  if h : seed.length = seedSize then some ⟨seed, h⟩ else none

/--
The scalar that the first half of a digest stands for: a number of 255 bits whose highest
bit is set and whose lowest three bits are zero.
-/
def clamp (half : Bytes) : Nat :=
  let number := BigEndian.toNat half.reverse
  (1 <<< 254) + number % (1 <<< 254) / 8 * 8

/-- The public key. -/
def publicKey (key : Key) : Bytes :=
  (Point.base.multiple (clamp ((Hash.sha512.digest key.seed).take 32))).encode

/-- What stands before the seed in a private key document: an octet string of 32 bytes. -/
def seedHeader : Bytes := [0x04, 0x20]

/-- The private key of a document. -/
def privateKey (key : Key) : Bytes :=
  seedHeader ++ key.seed

/-- The key whose private key in a document is given. -/
def ofPrivateKey? (bytes : Bytes) : Option Key := do
  let (header, seed) ← Bytes.split? seedHeader.length bytes
  if header = seedHeader then ofSeed? seed else none

end Key

end SealedKey.Ed25519
