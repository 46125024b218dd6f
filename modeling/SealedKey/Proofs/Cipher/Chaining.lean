import SealedKey.Cipher.Cbc
import SealedKey.Proofs.Cipher.Block

/-!
# Decryption of a text undoes its encryption

The padding is found again behind any text (`unpad?_append_padding`), a chain of blocks is
undone block by block (`decryptBlocks_encryptBlocks`), and a text of whole blocks is the bytes
of its blocks (`Block.flatMap_toBytes_ofBytes`).  Together they give `decrypt?_encrypt`, for
every key, initialization vector and text.  `length_encrypt` says how long the encrypted text is,
and `length_of_decrypt?` how long a decrypted one can be.
-/

namespace SealedKey.Cipher

/-! ## Bytes and blocks -/

namespace Block

@[simp] theorem length_toBytes (b : Block) : b.toBytes.length = 16 := rfl

theorem ofBytes_toBytes_append (b : Block) (rest : Bytes) :
    ofBytes (b.toBytes ++ rest) = b :: ofBytes rest := rfl

/-- The bytes of blocks give the blocks back. -/
theorem ofBytes_flatMap_toBytes (blocks : List Block) :
    ofBytes (blocks.flatMap toBytes) = blocks := by
  induction blocks with
  | nil => rfl
  | cons b blocks ih => rw [List.flatMap_cons, ofBytes_toBytes_append, ih]

/-- A byte string of at least sixteen bytes starts with the bytes of a block. -/
theorem exists_toBytes_append {bytes : Bytes} (h : size ≤ bytes.length) :
    ∃ b rest, bytes = toBytes b ++ rest := by
  obtain ⟨front, back, rfl, hfront⟩ :
      ∃ front back, bytes = front ++ back ∧ front.length = 16 :=
    ⟨bytes.take 16, bytes.drop 16, (List.take_append_drop 16 bytes).symm,
      List.length_take_of_le h⟩
  match front, hfront with
  | [x₀, x₁, x₂, x₃, x₄, x₅, x₆, x₇, x₈, x₉, x₁₀, x₁₁, x₁₂, x₁₃, x₁₄, x₁₅], _ =>
    exact ⟨⟨⟨x₀, x₁, x₂, x₃⟩, ⟨x₄, x₅, x₆, x₇⟩, ⟨x₈, x₉, x₁₀, x₁₁⟩, ⟨x₁₂, x₁₃, x₁₄, x₁₅⟩⟩,
      back, rfl⟩

/-- Whole blocks hold all bytes. -/
theorem flatMap_toBytes_ofBytes {bytes : Bytes} (h : bytes.length % size = 0) :
    (ofBytes bytes).flatMap toBytes = bytes := by
  by_cases hempty : bytes = []
  · subst hempty
    rfl
  · have hpos : 0 < bytes.length := List.length_pos_iff.2 hempty
    have hsize : size ≤ bytes.length := by
      simp only [size] at h ⊢
      omega
    obtain ⟨b, rest, rfl⟩ := exists_toBytes_append hsize
    have hrest : rest.length % size = 0 := by
      simp only [List.length_append, length_toBytes, size] at h ⊢
      omega
    rw [ofBytes_toBytes_append, List.flatMap_cons, flatMap_toBytes_ofBytes hrest]
termination_by bytes.length

@[simp] theorem length_flatMap_toBytes (blocks : List Block) :
    (blocks.flatMap toBytes).length = size * blocks.length := by
  induction blocks with
  | nil => rfl
  | cons b blocks ih =>
    simp only [List.flatMap_cons, List.length_append, length_toBytes, ih, size, List.length_cons]
    omega

end Block

/-! ## Padding -/

/-- The number of padding bytes of a text of `length` bytes. -/
def paddingSize (length : Nat) : Nat := Block.size - length % Block.size

theorem paddingSize_pos (length : Nat) : 0 < paddingSize length := by
  simp only [paddingSize, Block.size]
  omega

theorem paddingSize_le (length : Nat) : paddingSize length ≤ Block.size := by
  simp only [paddingSize]
  omega

theorem add_paddingSize_mod (length : Nat) : (length + paddingSize length) % Block.size = 0 := by
  simp only [paddingSize, Block.size]
  omega

theorem padding_eq (length : Nat) :
    padding length = List.replicate (paddingSize length) (UInt8.ofNat (paddingSize length)) := rfl

@[simp] theorem length_padding (length : Nat) : (padding length).length = paddingSize length := by
  rw [padding_eq, List.length_replicate]

theorem toNat_ofNat_paddingSize (length : Nat) :
    (UInt8.ofNat (paddingSize length)).toNat = paddingSize length := by
  have := paddingSize_le length
  simp only [Block.size] at this
  rw [UInt8.toNat_ofNat']
  omega

theorem getLast?_append_padding (text : Bytes) :
    (text ++ padding text.length).getLast? = some (UInt8.ofNat (paddingSize text.length)) := by
  have hpos := paddingSize_pos text.length
  rw [padding_eq, List.getLast?_append, List.getLast?_replicate, if_neg (by omega)]
  rfl

/-- The padding of a text is found and taken off. -/
theorem unpad?_append_padding (text : Bytes) :
    unpad? (text ++ padding text.length) = some text := by
  have hlast := getLast?_append_padding text
  have hcount := toNat_ofNat_paddingSize text.length
  have hlength :
      (text ++ padding text.length).length - paddingSize text.length = text.length := by
    rw [List.length_append, length_padding]
    omega
  simp only [unpad?, hlast, Option.bind_eq_bind, Option.bind_some, hcount, hlength]
  rw [List.drop_left, List.take_left, if_pos ⟨paddingSize_pos _, paddingSize_le _, padding_eq _⟩]

/-- What is taken off is one to sixteen bytes. -/
theorem length_of_unpad? {padded text : Bytes} (h : unpad? padded = some text) :
    text.length < padded.length ∧ padded.length ≤ text.length + Block.size := by
  obtain ⟨last, hlast, h⟩ := Option.bind_eq_some_iff.1 h
  obtain ⟨⟨hpos, hle, -⟩, htext⟩ := Option.ite_none_right_eq_some.1 h
  have hpadded : 0 < padded.length := by
    refine List.length_pos_iff.2 fun hnil => ?_
    rw [hnil] at hlast
    nomatch hlast
  rw [← Option.some.inj htext, List.length_take]
  omega

/-! ## Chaining -/

/-- A chain is undone from its first block on: each block needs the encrypted block before it. -/
theorem decryptBlocks_encryptBlocks (keys : List Block) (previous : Block) (blocks : List Block) :
    decryptBlocks keys previous (encryptBlocks keys previous blocks) = blocks := by
  induction blocks generalizing previous with
  | nil => rfl
  | cons b blocks ih =>
    rw [encryptBlocks, decryptBlocks, decryptBlock_encryptBlock, Block.add_add_cancel, ih]

@[simp] theorem length_encryptBlocks (keys : List Block) (previous : Block) (blocks : List Block) :
    (encryptBlocks keys previous blocks).length = blocks.length := by
  induction blocks generalizing previous with
  | nil => rfl
  | cons b blocks ih => simp [encryptBlocks, ih]

@[simp] theorem length_decryptBlocks (keys : List Block) (previous : Block) (blocks : List Block) :
    (decryptBlocks keys previous blocks).length = blocks.length := by
  induction blocks generalizing previous with
  | nil => rfl
  | cons b blocks ih => simp [decryptBlocks, ih]

/-! ## Texts -/

theorem length_padded_mod (plain : Bytes) :
    (plain ++ padding plain.length).length % Block.size = 0 := by
  rw [List.length_append, length_padding, add_paddingSize_mod]

/-- An encrypted text is one to sixteen bytes longer than the text, and has whole blocks. -/
theorem length_encrypt (key iv plain : Bytes) :
    (encrypt key iv plain).length = plain.length + paddingSize plain.length := by
  have hblocks := congrArg List.length (Block.flatMap_toBytes_ofBytes (length_padded_mod plain))
  rw [Block.length_flatMap_toBytes, List.length_append, length_padding] at hblocks
  rw [encrypt, Block.length_flatMap_toBytes, length_encryptBlocks, hblocks]

/-- A decrypted text is one to sixteen bytes shorter, whatever the key is. -/
theorem length_of_decrypt? {key iv encrypted plain : Bytes}
    (h : decrypt? key iv encrypted = some plain) :
    plain.length < encrypted.length ∧ encrypted.length ≤ plain.length + Block.size := by
  obtain ⟨hwhole, hplain⟩ := Option.ite_none_right_eq_some.1 h
  have hblocks := congrArg List.length (Block.flatMap_toBytes_ofBytes hwhole)
  rw [Block.length_flatMap_toBytes] at hblocks
  have hlength := length_of_unpad? hplain
  rwa [Block.length_flatMap_toBytes, length_decryptBlocks, hblocks] at hlength

/-- Decryption with the same key and initialization vector gives the text back. -/
theorem decrypt?_encrypt (key iv plain : Bytes) :
    decrypt? key iv (encrypt key iv plain) = some plain := by
  have hwhole : (encrypt key iv plain).length % Block.size = 0 := by
    rw [length_encrypt, add_paddingSize_mod]
  rw [decrypt?, if_pos hwhole]
  simp only [encrypt]
  rw [Block.ofBytes_flatMap_toBytes, decryptBlocks_encryptBlocks,
    Block.flatMap_toBytes_ofBytes (length_padded_mod plain), unpad?_append_padding]

end SealedKey.Cipher
