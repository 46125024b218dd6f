import SealedKey.Hash.Basic

/-!
# Keyed hashes

HMAC hashes a message twice, each time behind one block made from the key.  The
states after these two blocks do not depend on the message, so they are computed
once for a key.

A key longer than a block is replaced by its digest, and a shorter one is filled
with zero bytes.  So a short key and the same key with a zero byte behind it are
one key.
-/

namespace SealedKey.Hash

/-- A key of HMAC: the states after its two blocks. -/
structure HmacKey (σ : Type) where
  /-- The state before the message. -/
  inner : σ
  /-- The state before the digest of the message. -/
  outer : σ

namespace HmacKey

variable {σ : Type}

/-- The key in the form of one block. -/
def block (hash : Hash σ) (key : Bytes) : Bytes :=
  let short := if hash.blockSize < key.length then hash.digest key else key
  short ++ List.replicate (hash.blockSize - short.length) 0

/-- The HMAC key of a byte string. -/
def ofBytes (hash : Hash σ) (key : Bytes) : HmacKey σ where
  inner := hash.compress hash.start ((block hash key).map (· ^^^ 0x36))
  outer := hash.compress hash.start ((block hash key).map (· ^^^ 0x5C))

/-- The keyed hash of a message. -/
def mac (hash : Hash σ) (key : HmacKey σ) (message : Bytes) : Bytes :=
  hash.resume key.outer hash.blockSize (hash.resume key.inner hash.blockSize message)

end HmacKey

/-- A byte string below the block size and the same with a zero byte behind it give one block. -/
theorem HmacKey.block_append_zero {σ : Type} {hash : Hash σ} {key : Bytes}
    (h : key.length < hash.blockSize) : block hash (key ++ [0]) = block hash key := by
  have hlong : ¬ hash.blockSize < (key ++ [0]).length := by simp; omega
  have hshort : ¬ hash.blockSize < key.length := by omega
  have hcount : hash.blockSize - key.length = (hash.blockSize - (key ++ [0]).length) + 1 := by
    simp; omega
  rw [block, if_neg hlong, block, if_neg hshort, hcount, List.replicate_succ]
  simp

end SealedKey.Hash
