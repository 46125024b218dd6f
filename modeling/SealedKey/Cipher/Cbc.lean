import SealedKey.Cipher.Aes

/-!
# Cipher block chaining

Each block of the plain text is added to the encrypted block before it, the first one
to the initialization vector.  The plain text is filled to whole blocks by one to
sixteen bytes, each of which is the number of them.
-/

namespace SealedKey.Cipher

/-! ## Padding -/

/-- The padding of a text of `length` bytes. -/
def padding (length : Nat) : Bytes :=
  let count := Block.size - length % Block.size
  List.replicate count (UInt8.ofNat count)

/-- The text in front of the padding, if the padding is right. -/
def unpad? (padded : Bytes) : Option Bytes := do
  let count := (← padded.getLast?).toNat
  let length := padded.length - count
  if 0 < count ∧ count ≤ Block.size ∧ padded.drop length = List.replicate count (UInt8.ofNat count)
  then some (padded.take length)
  else none

/-! ## Chaining -/

/-- Encrypts blocks, with `previous` the block to which the first one is added. -/
def encryptBlocks (keys : List Block) (previous : Block) : List Block → List Block
  | [] => []
  | b :: rest =>
    let encrypted := encryptBlock keys (b.add previous)
    encrypted :: encryptBlocks keys encrypted rest

/-- Decrypts blocks, with `previous` the block to which the first one was added. -/
def decryptBlocks (keys : List Block) (previous : Block) : List Block → List Block
  | [] => []
  | b :: rest => (decryptBlock keys b).add previous :: decryptBlocks keys b rest

/-- The first block of an initialization vector; a vector that is too short counts as zeros. -/
def vectorBlock (iv : Bytes) : Block :=
  let zero : Column := ⟨0, 0, 0, 0⟩
  (Block.ofBytes iv).headD ⟨zero, zero, zero, zero⟩

/-- Encrypts a text of any length. -/
def encrypt (key iv plain : Bytes) : Bytes :=
  let blocks := Block.ofBytes (plain ++ padding plain.length)
  (encryptBlocks (roundKeys key) (vectorBlock iv) blocks).flatMap Block.toBytes

/-- Decrypts a text of whole blocks; fails if there is none, or if the padding is wrong. -/
def decrypt? (key iv encrypted : Bytes) : Option Bytes :=
  if encrypted.length % Block.size = 0 then
    let blocks := decryptBlocks (roundKeys key) (vectorBlock iv) (Block.ofBytes encrypted)
    unpad? (blocks.flatMap Block.toBytes)
  else none

end SealedKey.Cipher
