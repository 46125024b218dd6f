import SealedKey.Bytes
import SealedKey.Cipher.Substitution

/-!
# The AES block cipher

A block is four columns of four bytes.  A round substitutes the bytes, shifts the
rows, mixes the columns and adds a round key; the last round does not mix.  Each
layer stands beside its inverse, and decryption takes the layers off one by one.

`roundKeys` derives the round keys from a key of 16, 24 or 32 bytes.
-/

namespace SealedKey.Cipher

/-! ## Bytes as field elements -/

/-- The product with 2 in the field of 256 elements. -/
def double (x : UInt8) : UInt8 :=
  (x <<< 1) ^^^ (if x < 0x80 then 0 else 0x1B)

/-- The product with 9. -/
def times9 (x : UInt8) : UInt8 := double (double (double x)) ^^^ x

/-- The product with 11. -/
def times11 (x : UInt8) : UInt8 := double (double (double x) ^^^ x) ^^^ x

/-- The product with 13. -/
def times13 (x : UInt8) : UInt8 := double (double (double x ^^^ x)) ^^^ x

/-- The product with 14. -/
def times14 (x : UInt8) : UInt8 := double (double (double x ^^^ x) ^^^ x)

/-! ## Columns -/

/-- Four bytes, one of each row. -/
structure Column where
  r₀ : UInt8
  r₁ : UInt8
  r₂ : UInt8
  r₃ : UInt8
deriving DecidableEq, Repr

namespace Column

/-- Applies a function to each byte. -/
def map (f : UInt8 → UInt8) (c : Column) : Column :=
  ⟨f c.r₀, f c.r₁, f c.r₂, f c.r₃⟩

/-- The bytewise exclusive or. -/
def add (c d : Column) : Column :=
  ⟨c.r₀ ^^^ d.r₀, c.r₁ ^^^ d.r₁, c.r₂ ^^^ d.r₂, c.r₃ ^^^ d.r₃⟩

/-- The first byte moved to the end. -/
def rotate (c : Column) : Column :=
  ⟨c.r₁, c.r₂, c.r₃, c.r₀⟩

/-- The product with the matrix of the mixing layer. -/
def mix (c : Column) : Column where
  r₀ := double c.r₀ ^^^ (double c.r₁ ^^^ c.r₁) ^^^ c.r₂ ^^^ c.r₃
  r₁ := c.r₀ ^^^ double c.r₁ ^^^ (double c.r₂ ^^^ c.r₂) ^^^ c.r₃
  r₂ := c.r₀ ^^^ c.r₁ ^^^ double c.r₂ ^^^ (double c.r₃ ^^^ c.r₃)
  r₃ := (double c.r₀ ^^^ c.r₀) ^^^ c.r₁ ^^^ c.r₂ ^^^ double c.r₃

/-- The product with the inverse of that matrix. -/
def unmix (c : Column) : Column where
  r₀ := times14 c.r₀ ^^^ times11 c.r₁ ^^^ times13 c.r₂ ^^^ times9 c.r₃
  r₁ := times9 c.r₀ ^^^ times14 c.r₁ ^^^ times11 c.r₂ ^^^ times13 c.r₃
  r₂ := times13 c.r₀ ^^^ times9 c.r₁ ^^^ times14 c.r₂ ^^^ times11 c.r₃
  r₃ := times11 c.r₀ ^^^ times13 c.r₁ ^^^ times9 c.r₂ ^^^ times14 c.r₃

end Column

/-! ## Blocks -/

/-- Sixteen bytes in four columns. -/
structure Block where
  c₀ : Column
  c₁ : Column
  c₂ : Column
  c₃ : Column
deriving DecidableEq, Repr

namespace Block

/-- The number of bytes of a block. -/
def size : Nat := 16

/-- Applies a function to each column. -/
def map (f : Column → Column) (b : Block) : Block :=
  ⟨f b.c₀, f b.c₁, f b.c₂, f b.c₃⟩

/-- The bytewise exclusive or. -/
def add (b k : Block) : Block :=
  ⟨b.c₀.add k.c₀, b.c₁.add k.c₁, b.c₂.add k.c₂, b.c₃.add k.c₃⟩

/-- Substitutes each byte. -/
def substitute (b : Block) : Block :=
  b.map (·.map Cipher.substitute)

/-- Undoes `substitute`. -/
def unsubstitute (b : Block) : Block :=
  b.map (·.map Cipher.unsubstitute)

/-- Moves the bytes of each row to the left by the number of the row. -/
def shiftRows (b : Block) : Block where
  c₀ := ⟨b.c₀.r₀, b.c₁.r₁, b.c₂.r₂, b.c₃.r₃⟩
  c₁ := ⟨b.c₁.r₀, b.c₂.r₁, b.c₃.r₂, b.c₀.r₃⟩
  c₂ := ⟨b.c₂.r₀, b.c₃.r₁, b.c₀.r₂, b.c₁.r₃⟩
  c₃ := ⟨b.c₃.r₀, b.c₀.r₁, b.c₁.r₂, b.c₂.r₃⟩

/-- Undoes `shiftRows`. -/
def unshiftRows (b : Block) : Block where
  c₀ := ⟨b.c₀.r₀, b.c₃.r₁, b.c₂.r₂, b.c₁.r₃⟩
  c₁ := ⟨b.c₁.r₀, b.c₀.r₁, b.c₃.r₂, b.c₂.r₃⟩
  c₂ := ⟨b.c₂.r₀, b.c₁.r₁, b.c₀.r₂, b.c₃.r₃⟩
  c₃ := ⟨b.c₃.r₀, b.c₂.r₁, b.c₁.r₂, b.c₀.r₃⟩

/-- The columns of a byte string, four bytes each. -/
def columns : Bytes → List Column
  | r₀ :: r₁ :: r₂ :: r₃ :: rest => ⟨r₀, r₁, r₂, r₃⟩ :: columns rest
  | _ => []

/-- The blocks of a list of columns; columns that fill no block are dropped. -/
def ofColumns : List Column → List Block
  | c₀ :: c₁ :: c₂ :: c₃ :: rest => ⟨c₀, c₁, c₂, c₃⟩ :: ofColumns rest
  | _ => []

/-- The blocks of a byte string; bytes that fill no block are dropped. -/
def ofBytes (bytes : Bytes) : List Block :=
  ofColumns (columns bytes)

/-- The bytes of a block, column by column. -/
def toBytes (b : Block) : Bytes :=
  [b.c₀, b.c₁, b.c₂, b.c₃].flatMap fun c => [c.r₀, c.r₁, c.r₂, c.r₃]

end Block

/-! ## The key schedule -/

/--
The columns of the key schedule, last first, with `count` more of them than `done`.
`width` is the number of columns of the key, `constant` the next round constant.
-/
def scheduleColumns (width : Nat) : (count : Nat) → (constant : UInt8) → (done : List Column) →
    List Column
  | 0, _, done => done
  | count + 1, constant, done =>
    match done.head?, done[width - 1]? with
    | some last, some old =>
      let place := done.length % width
      if place = 0 then
        let change := (last.rotate.map substitute).add ⟨constant, 0, 0, 0⟩
        scheduleColumns width count (double constant) (old.add change :: done)
      else if 6 < width ∧ place = 4 then
        scheduleColumns width count constant (old.add (last.map substitute) :: done)
      else
        scheduleColumns width count constant (old.add last :: done)
    | _, _ => done

/-- The round keys of a key: one for each round and one before the first. -/
def roundKeys (key : Bytes) : List Block :=
  let columns := Block.columns key
  let width := columns.length
  let count := 4 * (width + 7) - width
  Block.ofColumns (scheduleColumns width count 1 columns.reverse).reverse

/-! ## Encryption and decryption of a block -/

/-- The rounds with the given keys, of which the last one does not mix. -/
def rounds : List Block → Block → Block
  | [], b => b
  | [k], b => b.substitute.shiftRows.add k
  | k :: keys, b => rounds keys ((b.substitute.shiftRows.map Column.mix).add k)

/-- Undoes `rounds`. -/
def unrounds : List Block → Block → Block
  | [], b => b
  | [k], b => (b.add k).unshiftRows.unsubstitute
  | k :: keys, b => (((unrounds keys b).add k).map Column.unmix).unshiftRows.unsubstitute

/-- Encrypts a block. -/
def encryptBlock (keys : List Block) (b : Block) : Block :=
  match keys with
  | [] => b
  | k :: keys => rounds keys (b.add k)

/-- Decrypts a block. -/
def decryptBlock (keys : List Block) (b : Block) : Block :=
  match keys with
  | [] => b
  | k :: keys => (unrounds keys b).add k

end SealedKey.Cipher
