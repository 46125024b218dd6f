import SealedKey.Entropy
import SealedKey.Modular

/-!
# Random primes

A candidate of `k` bits is drawn with its two highest bits and its lowest bit set.  It
is moved up to the next number without a small factor, and taken if it still has `k` bits
and passes the test for primes; else the next candidate is drawn.

The test is the strong one to the bases that are themselves small primes, behind a
division by them.
-/

namespace SealedKey.Rsa.Prime

/-- The primes that no candidate may have as a factor. -/
def smallPrimes : List Nat := [3, 5, 7, 11, 13, 17, 19, 23, 29, 31, 37, 41, 43, 47, 53]

/-- The product of the small primes. -/
def smallPrimorial : Nat := smallPrimes.foldl (· * ·) 1

/-! ## The test -/

/-- The bases of the test. -/
def bases : List Nat := [2, 3, 5, 7, 11, 13, 17, 19, 23, 29, 31, 37, 41, 43, 47, 53, 59, 61, 67, 71]

/-- The odd part of a positive number, and how often 2 divides it. -/
def oddPart (n : Nat) : Nat × Nat :=
  if _h : n = 0 ∨ n % 2 = 1 then (n, 0)
  else
    let (odd, count) := oddPart (n / 2)
    (odd, count + 1)

/-- Whether `n - 1` is reached from `x` by fewer than `count` squarings. -/
def squaresToMinusOne (n : Nat) : (count : Nat) → (x : Nat) → Bool
  | 0, _ => false
  | count + 1, x => x = n - 1 || squaresToMinusOne n count (x * x % n)

/-- Whether an odd number behaves like a prime to one base. -/
def passes (n base : Nat) : Bool :=
  let (odd, count) := oddPart (n - 1)
  let x := Modular.pow n base odd
  x = 1 || squaresToMinusOne n count x

/-- Whether a number behaves like a prime to all bases. -/
def isProbablePrime (n : Nat) : Bool :=
  1 < n && bases.all fun base => n = base || (n % base ≠ 0 && passes n base)

/-! ## Drawing a prime -/

/-- Whether a number has a factor among the small primes, other than itself if that may be. -/
def hasSmallFactor (allowSelf : Bool) (n : Nat) : Bool :=
  smallPrimes.any fun p => n % p = 0 && !(allowSelf && n = p)

/-- The least even step of at most `2 * count` from `n` to a number without a small factor. -/
def stepToCandidate (allowSelf : Bool) (n : Nat) : (count : Nat) → (step : Nat) → Option Nat
  | 0, _ => none
  | count + 1, step =>
    if hasSmallFactor allowSelf (n + step) then stepToCandidate allowSelf n count (step + 2)
    else some step

/-- The number of steps that are tried. -/
def maxSteps : Nat := 1 <<< 19

/-- The number of `bits` bits that random bytes give: its two highest bits and its lowest are set. -/
def ofRandom (bits : Nat) (random : Bytes) : Nat :=
  (BigEndian.toNat random % (1 <<< bits)) ||| (3 <<< (bits - 2)) ||| 1

/-- The candidate that random bytes lead to.  Below seven bits a small prime is a candidate. -/
def candidate (bits : Nat) (random : Bytes) : Nat :=
  let n := ofRandom bits random
  n + (stepToCandidate (bits ≤ 6) (n % smallPrimorial) maxSteps 0).getD 0

/-- The prime that random bytes lead to, if the candidate is one of the wanted length. -/
def ofRandom? (bits : Nat) (random : Bytes) : Option Nat :=
  let n := candidate bits random
  if BigEndian.bitLength n = bits ∧ isProbablePrime n then some n else none

/-- Draws a prime of `bits` bits. -/
def draw (bits : Nat) : Draw Nat :=
  Draw.untilSome do
    return ofRandom? bits (← Draw.bytes ((bits + 7) / 8))

end SealedKey.Rsa.Prime
