import SealedKey.Hash.Hmac
import SealedKey.Hash.Sha256

/-!
# Keys that HMAC does not tell apart

HMAC makes one block of its key, and nothing but this block goes into the hashes
(`HmacKey.ofBytes_eq_of_block_eq`).  `HmacKey.block_eq_block_iff` says which byte strings have the
same block: a string longer than a block counts as its digest, and zero bytes at the end do not
count.
-/

namespace SealedKey

/-- Two byte strings that are the same, but for zero bytes at the end of one of them. -/
def Bytes.SameUpToZeros (a b : Bytes) : Prop :=
  ∃ n, a = b ++ List.replicate n 0 ∨ b = a ++ List.replicate n 0

namespace Hash.HmacKey

variable {σ : Type} {hash : Hash σ} {a b : Bytes}

theorem zeroFill_append_replicate (a : Bytes) {n size : Nat}
    (h : (a ++ List.replicate n 0).length ≤ size) :
    a ++ List.replicate n 0 ++ List.replicate (size - (a ++ List.replicate n 0).length) 0 =
      a ++ List.replicate (size - a.length) 0 := by
  rw [List.length_append, List.length_replicate] at h ⊢
  have hcount : n + (size - (a.length + n)) = size - a.length := by omega
  rw [List.append_assoc, List.replicate_append_replicate, hcount]

/-- Two byte strings are the same when they are filled with zero bytes, if they were the same up to
zero bytes. -/
theorem zeroFill_eq_zeroFill_iff {size : Nat} (ha : a.length ≤ size) (hb : b.length ≤ size) :
    a ++ List.replicate (size - a.length) 0 = b ++ List.replicate (size - b.length) 0 ↔
      a.SameUpToZeros b := by
  constructor
  · intro h
    obtain ⟨c, rfl, hc⟩ | ⟨c, rfl, hc⟩ := List.append_eq_append_iff.1 h
    · obtain ⟨-, hzeros, -⟩ := List.append_eq_replicate_iff.1 hc.symm
      exact ⟨c.length, .inr (congrArg (a ++ ·) hzeros)⟩
    · obtain ⟨-, hzeros, -⟩ := List.append_eq_replicate_iff.1 hc.symm
      exact ⟨c.length, .inl (congrArg (b ++ ·) hzeros)⟩
  · intro h
    obtain ⟨n, rfl | rfl⟩ := h
    · exact zeroFill_append_replicate b ha
    · exact (zeroFill_append_replicate a hb).symm

/-- What stands for a key in its block: the key itself, or the digest of one that is too long. -/
def short (hash : Hash σ) (key : Bytes) : Bytes :=
  if hash.blockSize < key.length then hash.digest key else key

theorem length_short_le (hdigest : ∀ message, (hash.digest message).length ≤ hash.blockSize)
    (key : Bytes) : (short hash key).length ≤ hash.blockSize := by
  unfold short
  split
  · exact hdigest key
  · omega

/-- Which keys have the same block. -/
theorem block_eq_block_iff
    (hdigest : ∀ message, (hash.digest message).length ≤ hash.blockSize) :
    block hash a = block hash b ↔ (short hash a).SameUpToZeros (short hash b) :=
  zeroFill_eq_zeroFill_iff (length_short_le hdigest a) (length_short_le hdigest b)

/-- A key of the size of a block is its block. -/
theorem block_of_length_eq (h : a.length = hash.blockSize) : block hash a = a := by
  have hshort : ¬ hash.blockSize < a.length := by omega
  rw [block, if_neg hshort, h, Nat.sub_self, List.replicate_zero, List.append_nil]

/-- A key is no more than its block. -/
theorem ofBytes_eq_of_block_eq (h : block hash a = block hash b) :
    ofBytes hash a = ofBytes hash b := by
  rw [ofBytes, ofBytes, h]

end Hash.HmacKey

theorem Hash.length_digest_sha256_le (message : Bytes) :
    (Hash.sha256.digest message).length ≤ Hash.sha256.blockSize := by
  have hsize : (Hash.sha256.digest message).length ≤ 32 := List.length_take_le _ _
  exact Nat.le_trans hsize (by decide)

end SealedKey
