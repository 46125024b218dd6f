import SealedKey.Hash.Sha256
import SealedKey.Kdf.Pbkdf2

/-!
# scrypt

A key derivation that needs much memory.  The passphrase and the salt give `p`
rows of `2 r` blocks of 64 bytes.  Each row is mixed `n` times while all states are
kept, and `n` times more while each step adds the state that the row itself selects.

Blocks are mixed by the Salsa20/8 core: four double rounds over sixteen words.
-/

namespace SealedKey.Kdf

/-- Sixteen little-endian words. -/
structure Salsa where
  x₀ : UInt32
  x₁ : UInt32
  x₂ : UInt32
  x₃ : UInt32
  x₄ : UInt32
  x₅ : UInt32
  x₆ : UInt32
  x₇ : UInt32
  x₈ : UInt32
  x₉ : UInt32
  x₁₀ : UInt32
  x₁₁ : UInt32
  x₁₂ : UInt32
  x₁₃ : UInt32
  x₁₄ : UInt32
  x₁₅ : UInt32
deriving DecidableEq, Repr

namespace Salsa

/-- A word rotated to the left. -/
@[inline] def rotateLeft (x count : UInt32) : UInt32 :=
  (x <<< count) ||| (x >>> (32 - count))

/-- The quarter round on four words. -/
@[inline] def quarter (a b c d : UInt32) : UInt32 × UInt32 × UInt32 × UInt32 :=
  let b := b ^^^ rotateLeft (a + d) 7
  let c := c ^^^ rotateLeft (b + a) 9
  let d := d ^^^ rotateLeft (c + b) 13
  let a := a ^^^ rotateLeft (d + c) 18
  (a, b, c, d)

/-- A round on the columns and a round on the rows. -/
def doubleRound (s : Salsa) : Salsa :=
  let (x₀, x₄, x₈, x₁₂) := quarter s.x₀ s.x₄ s.x₈ s.x₁₂
  let (x₅, x₉, x₁₃, x₁) := quarter s.x₅ s.x₉ s.x₁₃ s.x₁
  let (x₁₀, x₁₄, x₂, x₆) := quarter s.x₁₀ s.x₁₄ s.x₂ s.x₆
  let (x₁₅, x₃, x₇, x₁₁) := quarter s.x₁₅ s.x₃ s.x₇ s.x₁₁
  let (x₀, x₁, x₂, x₃) := quarter x₀ x₁ x₂ x₃
  let (x₅, x₆, x₇, x₄) := quarter x₅ x₆ x₇ x₄
  let (x₁₀, x₁₁, x₈, x₉) := quarter x₁₀ x₁₁ x₈ x₉
  let (x₁₅, x₁₂, x₁₃, x₁₄) := quarter x₁₅ x₁₂ x₁₃ x₁₄
  ⟨x₀, x₁, x₂, x₃, x₄, x₅, x₆, x₇,
    x₈, x₉, x₁₀, x₁₁, x₁₂, x₁₃, x₁₄, x₁₅⟩

/-- The wordwise sum. -/
def add (s t : Salsa) : Salsa :=
  ⟨s.x₀ + t.x₀, s.x₁ + t.x₁, s.x₂ + t.x₂, s.x₃ + t.x₃,
    s.x₄ + t.x₄, s.x₅ + t.x₅, s.x₆ + t.x₆, s.x₇ + t.x₇,
    s.x₈ + t.x₈, s.x₉ + t.x₉, s.x₁₀ + t.x₁₀, s.x₁₁ + t.x₁₁,
    s.x₁₂ + t.x₁₂, s.x₁₃ + t.x₁₃, s.x₁₄ + t.x₁₄, s.x₁₅ + t.x₁₅⟩

/-- The wordwise exclusive or. -/
def xor (s t : Salsa) : Salsa :=
  ⟨s.x₀ ^^^ t.x₀, s.x₁ ^^^ t.x₁, s.x₂ ^^^ t.x₂, s.x₃ ^^^ t.x₃,
    s.x₄ ^^^ t.x₄, s.x₅ ^^^ t.x₅, s.x₆ ^^^ t.x₆, s.x₇ ^^^ t.x₇,
    s.x₈ ^^^ t.x₈, s.x₉ ^^^ t.x₉, s.x₁₀ ^^^ t.x₁₀, s.x₁₁ ^^^ t.x₁₁,
    s.x₁₂ ^^^ t.x₁₂, s.x₁₃ ^^^ t.x₁₃, s.x₁₄ ^^^ t.x₁₄, s.x₁₅ ^^^ t.x₁₅⟩

/-- The core: four double rounds, added to their input. -/
def core (s : Salsa) : Salsa :=
  s.add (doubleRound (doubleRound (doubleRound (doubleRound s))))

/-- The words, first to last. -/
def words (s : Salsa) : List UInt32 :=
  [s.x₀, s.x₁, s.x₂, s.x₃, s.x₄, s.x₅, s.x₆, s.x₇,
    s.x₈, s.x₉, s.x₁₀, s.x₁₁, s.x₁₂, s.x₁₃, s.x₁₄, s.x₁₅]

/-- The block whose words are listed; missing words are zero. -/
def ofWords : List UInt32 → Salsa
  | [x₀, x₁, x₂, x₃, x₄, x₅, x₆, x₇,
      x₈, x₉, x₁₀, x₁₁, x₁₂, x₁₃, x₁₄, x₁₅] =>
    ⟨x₀, x₁, x₂, x₃, x₄, x₅, x₆, x₇,
      x₈, x₉, x₁₀, x₁₁, x₁₂, x₁₃, x₁₄, x₁₅⟩
  | _ => ⟨0, 0, 0, 0, 0, 0, 0, 0, 0, 0, 0, 0, 0, 0, 0, 0⟩

/-- The block that 64 bytes write, each word with its least significant byte first. -/
def ofBytes (bytes : Bytes) : Salsa :=
  ofWords ((bytes.chunks 4).map fun word => UInt32.ofNat (BigEndian.toNat word.reverse))

/-- The bytes of a block. -/
def toBytes (s : Salsa) : Bytes :=
  s.words.flatMap fun word => (BigEndian.padded 4 word.toNat).reverse

end Salsa

/-! ## Rows -/

/-- The blocks that are mixed together. -/
abbrev Row := List Salsa

namespace Row

/-- The elements in even places followed by those in odd places, of a list given last first. -/
def unshuffle (row : Row) : Row :=
  go [] [] row
where
  /-- Collects the elements in places of either parity; the last one is in an odd place. -/
  go (evens odds : Row) : Row → Row
    | odd :: even :: rest => go (even :: evens) (odd :: odds) rest
    | _ => evens ++ odds

/-- Mixes a row: each block is added to the one before it, and the last one to the first. -/
def mix (row : Row) : Row :=
  match row.getLast? with
  | none => []
  | some last =>
    let step := fun (mixed : Salsa × Row) block =>
      let next := (mixed.1.xor block).core
      (next, next :: mixed.2)
    unshuffle (row.foldl step (last, [])).2

/-- The number that the first two words of the last block write. -/
def selector (row : Row) : Nat :=
  match row.getLast? with
  | some last => (last.x₁.toNat <<< 32) + last.x₀.toNat
  | none => 0

/-- Mixes a row `count` times and keeps all rows on the way. -/
def fill : (count : Nat) → Row → Array Row → Row × Array Row
  | 0, row, kept => (row, kept)
  | count + 1, row, kept => fill count row.mix (kept.push row)

/-- Mixes a row `count` times, each time with one of the kept rows, which the row selects. -/
def drain (kept : Array Row) : (count : Nat) → Row → Row
  | 0, row => row
  | count + 1, row =>
    let other := kept.getD (row.selector % kept.size) []
    drain kept count (mix (row.zipWith Salsa.xor other))

/-- Mixes a row with `n` kept states. -/
def mixMemory (n : Nat) (row : Row) : Row :=
  let (row, kept) := fill n row (Array.emptyWithCapacity n)
  drain kept n row

end Row

/-- The cost of scrypt. -/
structure ScryptCost where
  /-- The number of states that are kept. -/
  n : Nat
  /-- Half the number of blocks of a row. -/
  r : Nat
  /-- The number of rows. -/
  p : Nat
deriving DecidableEq, Repr

namespace ScryptCost

/-- The number of bytes of a row. -/
def rowSize (cost : ScryptCost) : Nat := cost.r * 128

/--
The costs that can be used: `n` is a power of two below `2 ^ (16 r)`, there is a row and a
block, the rows together stay below `2 ^ 37` bytes, and the memory below `2 ^ 64` bytes.

The memory for the kept states, `n * r * 128` bytes, is taken to be available.
-/
def Usable (cost : ScryptCost) : Prop :=
  cost.n = 1 <<< cost.n.log2 ∧ 0 < cost.r ∧ 0 < cost.p ∧ cost.n.log2 < cost.r * 16 ∧
    cost.r * cost.p < 1 <<< 30 ∧ cost.rowSize * cost.n < 1 <<< 64

instance (cost : ScryptCost) : Decidable cost.Usable :=
  inferInstanceAs (Decidable (_ ∧ _))

end ScryptCost

/--
A key of `length` bytes from a passphrase and a salt.  The `n * r * 128` bytes of memory for the
kept states are taken to be available.
-/
def scrypt (passphrase salt : Bytes) (cost : ScryptCost) (length : Nat) : Bytes :=
  let keyed := KeyedHash.hmac Hash.sha256 passphrase
  let rows := (pbkdf2 keyed salt 1 (cost.p * cost.rowSize)).chunks cost.rowSize
  let mixed := rows.flatMap fun row =>
    (Row.mixMemory cost.n ((row.chunks 64).map Salsa.ofBytes)).flatMap Salsa.toBytes
  pbkdf2 keyed mixed 1 length

end SealedKey.Kdf
