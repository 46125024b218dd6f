import SealedKey.Hash.Basic

/-!
# The SHA-2 family

The digests of this family share one construction over words of 32 or 64 bits.
The state is eight words.  A block is sixteen words, which the schedule extends to
one word for each round, and a round moves the registers along while it changes two
of them.

`Word` holds what differs between the two sizes: the constants, and the four
functions that mix the bits of a word.
-/

namespace SealedKey.Hash.Sha2

/-- The words of one size, with the constants and bit mixers that belong to it. -/
class Word (α : Type) extends Add α, AndOp α, XorOp α, Complement α where
  /-- The number of bytes of a word. -/
  width : Nat
  /-- The word that these bytes write, most significant byte first. -/
  ofBytes : Bytes → α
  /-- The bytes of a word, most significant byte first. -/
  toBytes : α → Bytes
  /-- The constants of the rounds, one for each. -/
  roundConstants : List α
  /-- Mixes the word fifteen places back in the schedule. -/
  mixOld : α → α
  /-- Mixes the word two places back in the schedule. -/
  mixNew : α → α
  /-- Mixes the first register. -/
  mixA : α → α
  /-- Mixes the fifth register. -/
  mixE : α → α

/-- The state between blocks. -/
structure Registers (α : Type) where
  a : α
  b : α
  c : α
  d : α
  e : α
  f : α
  g : α
  h : α
deriving DecidableEq, Repr

variable {α : Type} [Word α]

/-- One word for each of `count` rounds: those of the block, and then each from four earlier ones. -/
@[specialize] def schedule (count : Nat) (block : Array α) : Array α :=
  (count - block.size).fold (fun i _ words => next i words) block
where
  /-- Adds the word that stands sixteen places behind place `i`. -/
  next (i : Nat) (words : Array α) : Array α :=
    match words[i]?, words[i + 1]?, words[i + 9]?, words[i + 14]? with
    | some w, some x, some y, some z => words.push (w + Word.mixOld x + y + Word.mixNew z)
    | _, _, _, _ => words

/-- One round with the sum of a constant and a word of the schedule. -/
@[specialize] def round (r : Registers α) (input : α) : Registers α :=
  let choice := (r.e &&& r.f) ^^^ (~~~r.e &&& r.g)
  let majority := (r.a &&& r.b) ^^^ (r.a &&& r.c) ^^^ (r.b &&& r.c)
  let change := r.h + Word.mixE r.e + choice + input
  { a := change + Word.mixA r.a + majority
    b := r.a
    c := r.b
    d := r.c
    e := r.d + change
    f := r.e
    g := r.f
    h := r.g }

/-- The registers, first to last. -/
def Registers.toList (r : Registers α) : List α :=
  [r.a, r.b, r.c, r.d, r.e, r.f, r.g, r.h]

/-- The state after one more block: the rounds start from the state and are added to it. -/
@[specialize] def compress (r : Registers α) (block : Bytes) : Registers α :=
  let constants : List α := Word.roundConstants
  let words := (block.chunks (Word.width α)).map Word.ofBytes
  let inputs := constants.zipWith (· + ·) (schedule constants.length words.toArray).toList
  let s := inputs.foldl round r
  ⟨r.a + s.a, r.b + s.b, r.c + s.c, r.d + s.d, r.e + s.e, r.f + s.f, r.g + s.g, r.h + s.h⟩

/-- The hash function with this start, whose digests are the first `size` bytes of the state. -/
@[specialize] def hash (size : Nat) (start : Registers α) : Hash (Registers α) where
  blockSize := 16 * Word.width α
  lengthSize := 2 * Word.width α
  size := size
  start := start
  compress := compress
  output r := (r.toList.flatMap Word.toBytes).take size

end SealedKey.Hash.Sha2
