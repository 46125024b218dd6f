import SealedKey.Bytes

/-!
# Hash functions by blocks

A hash function of the usual kind keeps a state, which each block of the message
changes.  The message is filled to whole blocks by a bit, zeros, and its length
in bits.

`Hash.resume` continues from the state after some whole blocks, which is what a
keyed hash needs; `Hash.digest` starts from the beginning.
-/

namespace SealedKey

/-- The whole chunks of `size` bytes, in order; bytes that fill no chunk are dropped. -/
def Bytes.chunks (size : Nat) (bytes : Bytes) : List Bytes :=
  if size = 0 then []
  else
    match _h : split? size bytes with
    | some (front, back) => front :: chunks size back
    | none => []
termination_by bytes.length
decreasing_by
  obtain ⟨hlength, rfl⟩ := split?_eq_some_iff.1 _h
  simp only [List.length_append]
  omega

/-- A hash function whose state is a value of `σ`. -/
structure Hash (σ : Type) where
  /-- The number of bytes of a block. -/
  blockSize : Nat
  /-- The number of bytes that hold the length of the message. -/
  lengthSize : Nat
  /-- The number of bytes of a digest. -/
  size : Nat
  /-- The state before the first block. -/
  start : σ
  /-- The state after one more block. -/
  compress : σ → Bytes → σ
  /-- The digest that a last state stands for. -/
  output : σ → Bytes

namespace Hash

variable {σ : Type}

/-- What is put behind a message of `length` bytes to fill whole blocks. -/
def padding (hash : Hash σ) (length : Nat) : Bytes :=
  let used := (length + 1 + hash.lengthSize) % hash.blockSize
  0x80 :: List.replicate ((hash.blockSize - used) % hash.blockSize) 0 ++
    BigEndian.padded hash.lengthSize (length * 8)

/-- The state after the whole blocks of `bytes`. -/
def absorb (hash : Hash σ) (state : σ) (bytes : Bytes) : σ :=
  (bytes.chunks hash.blockSize).foldl hash.compress state

/--
The digest of a message whose first `count` bytes, whole blocks, led to `state`, and whose
other bytes are `rest`.
-/
def resume (hash : Hash σ) (state : σ) (count : Nat) (rest : Bytes) : Bytes :=
  hash.output (hash.absorb state (rest ++ hash.padding (count + rest.length)))

/-- The digest of a message. -/
def digest (hash : Hash σ) (message : Bytes) : Bytes :=
  hash.resume hash.start 0 message

end Hash

end SealedKey
