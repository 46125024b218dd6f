import SealedKey.Modular
import SealedKey.Bytes

/-!
# The Edwards curve of Ed25519

The curve `-x² + y² = 1 + d x² y²` over the field of `2 ^ 255 - 19` elements, and the
multiplication of points by a scalar.

Points are kept in extended coordinates: `(x, y, z, t)` stands for the point
`(x / z, y / z)`, with `t = x y / z`.  One formula adds any two points.
-/

namespace SealedKey.Ed25519

/-- The prime of the field. -/
def prime : Nat := 0x7FFFFFFFFFFFFFFFFFFFFFFFFFFFFFFFFFFFFFFFFFFFFFFFFFFFFFFFFFFFFFED

/-- The product in the field. -/
def mul (a b : Nat) : Nat := a * b % prime

/-- The sum in the field. -/
def add (a b : Nat) : Nat := (a + b) % prime

/-- The difference in the field of two reduced numbers. -/
def sub (a b : Nat) : Nat := (a + (prime - b)) % prime

/-- The inverse in the field; that of zero is zero. -/
def inverse (a : Nat) : Nat := Modular.pow prime a (prime - 2)

/-- The coefficient `d` of the curve. -/
def coefficient : Nat := mul (prime - 121665) (inverse 121666)

/-- A point in extended coordinates. -/
structure Point where
  x : Nat
  y : Nat
  z : Nat
  t : Nat
deriving DecidableEq, Repr

namespace Point

/-- The point with these affine coordinates. -/
def ofAffine (x y : Nat) : Point := ⟨x, y, 1, mul x y⟩

/-- The neutral element. -/
def zero : Point := ofAffine 0 1

/-- The base point. -/
def base : Point :=
  ofAffine
    0x216936D3CD6E53FEC0A4E231FDD6DC5C692CC7609525A7B2C9562D608F25D51A
    0x6666666666666666666666666666666666666666666666666666666666666658

/-- The sum of two points. -/
def plus (q r : Point) : Point :=
  let a := mul (sub q.y q.x) (sub r.y r.x)
  let b := mul (add q.y q.x) (add r.y r.x)
  let c := mul (mul q.t (2 * coefficient)) r.t
  let d := mul (2 * q.z) r.z
  let e := sub b a
  let f := sub d c
  let g := add d c
  let h := add b a
  ⟨mul e f, mul g h, mul f g, mul e h⟩

/-- The multiple of a point, by doubling for each bit of the scalar. -/
def multiple (q : Point) (scalar : Nat) : Point :=
  if scalar = 0 then zero
  else
    let half := multiple q (scalar / 2)
    let even := half.plus half
    if scalar % 2 = 1 then even.plus q else even

/--
The 32 bytes of a point: the second coordinate, least significant byte first, with the
parity of the first coordinate as the highest bit.
-/
def encode (q : Point) : Bytes :=
  let inverse := inverse q.z
  let x := mul q.x inverse
  let y := mul q.y inverse
  (BigEndian.padded 32 (y + ((x % 2) <<< 255))).reverse

end Point

end SealedKey.Ed25519
