import SealedKey.Modular
import SealedKey.Pkcs8.AlgorithmIdentifier

/-!
# The named elliptic curves

The three curves `y² = x³ - 3 x + b` over prime fields that keys are typed for, and the
multiplication of their base points by a scalar.  The sum of two points does not depend on `b`.

Points are kept in Jacobian coordinates: `(x, y, z)` with `z ≠ 0` stands for the
point `(x / z², y / z³)`, and `z = 0` for the neutral element.
-/

namespace SealedKey.Ec

/-- A curve `y² = x³ - 3 x + b` over a prime field, with a base point. -/
structure Weierstrass where
  /-- The prime of the field. -/
  prime : Nat
  /-- The number of multiples of the base point. -/
  order : Nat
  /-- The first coordinate of the base point. -/
  baseX : Nat
  /-- The second coordinate of the base point. -/
  baseY : Nat

/-- A point in Jacobian coordinates. -/
structure Jacobian where
  x : Nat
  y : Nat
  z : Nat
deriving DecidableEq, Repr

namespace Weierstrass

variable (w : Weierstrass)

/-- The product in the field. -/
def mul (a b : Nat) : Nat := a * b % w.prime

/-- The difference in the field of two reduced numbers. -/
def sub (a b : Nat) : Nat := (a + (w.prime - b)) % w.prime

/-- The neutral element. -/
def zero : Jacobian := ⟨1, 1, 0⟩

/-- The base point. -/
def base : Jacobian := ⟨w.baseX, w.baseY, 1⟩

/-- Twice a point.  The slope uses that the coefficient of `x` is `-3`. -/
def twice (q : Jacobian) : Jacobian :=
  if q.z = 0 ∨ q.y = 0 then zero
  else
    let z₂ := w.mul q.z q.z
    let y₂ := w.mul q.y q.y
    let s := w.mul (4 * q.x) y₂
    let m := w.mul (3 * w.sub q.x z₂) (q.x + z₂)
    let x := w.sub (w.mul m m) (2 * s % w.prime)
    { x
      y := w.sub (w.mul m (w.sub s x)) (8 * w.mul y₂ y₂ % w.prime)
      z := w.mul (2 * q.y) q.z }

/-- The sum of two points. -/
def add (q r : Jacobian) : Jacobian :=
  if q.z = 0 then r
  else if r.z = 0 then q
  else
    let z₁ := w.mul q.z q.z
    let z₂ := w.mul r.z r.z
    let u₁ := w.mul q.x z₂
    let s₁ := w.mul q.y (w.mul z₂ r.z)
    let h := w.sub (w.mul r.x z₁) u₁
    let d := w.sub (w.mul r.y (w.mul z₁ q.z)) s₁
    if h = 0 then if d = 0 then w.twice q else zero
    else
      let h₂ := w.mul h h
      let h₃ := w.mul h₂ h
      let v := w.mul u₁ h₂
      let x := w.sub (w.sub (w.mul d d) h₃) (2 * v % w.prime)
      { x
        y := w.sub (w.mul d (w.sub v x)) (w.mul s₁ h₃)
        z := w.mul h (w.mul q.z r.z) }

/-- The multiple of a point, by doubling for each bit of the scalar. -/
def multiple (q : Jacobian) (scalar : Nat) : Jacobian :=
  if scalar = 0 then zero
  else
    let half := w.twice (multiple q (scalar / 2))
    if scalar % 2 = 1 then w.add half q else half

/-- The affine coordinates of a point; the neutral element has none and gives zeros. -/
def affine (q : Jacobian) : Nat × Nat :=
  let inverse := Modular.pow w.prime q.z (w.prime - 2)
  let square := w.mul inverse inverse
  (w.mul q.x square, w.mul q.y (w.mul square inverse))

end Weierstrass

/-! ## The curves -/

/-- The curves that have typed keys. -/
inductive Curve where
  | p256
  | p384
  | p521
deriving DecidableEq, Repr

namespace Curve

/-- All curves, the smallest first. -/
def all : List Curve := [p256, p384, p521]

/-- The equation, the base point and its order. -/
def weierstrass : Curve → Weierstrass
  | p256 => {
      prime := 0xFFFFFFFF00000001000000000000000000000000FFFFFFFFFFFFFFFFFFFFFFFF
      order := 0xFFFFFFFF00000000FFFFFFFFFFFFFFFFBCE6FAADA7179E84F3B9CAC2FC632551
      baseX := 0x6B17D1F2E12C4247F8BCE6E563A440F277037D812DEB33A0F4A13945D898C296
      baseY := 0x4FE342E2FE1A7F9B8EE7EB4A7C0F9E162BCE33576B315ECECBB6406837BF51F5 }
  | p384 => {
      prime := 0xFFFFFFFFFFFFFFFFFFFFFFFFFFFFFFFFFFFFFFFFFFFFFFFFFFFFFFFFFFFFFFFEFFFFFFFF0000000000000000FFFFFFFF
      order := 0xFFFFFFFFFFFFFFFFFFFFFFFFFFFFFFFFFFFFFFFFFFFFFFFFC7634D81F4372DDF581A0DB248B0A77AECEC196ACCC52973
      baseX := 0xAA87CA22BE8B05378EB1C71EF320AD746E1D3B628BA79B9859F741E082542A385502F25DBF55296C3A545E3872760AB7
      baseY := 0x3617DE4A96262C6F5D9E98BF9292DC29F8F41DBD289A147CE9DA3113B5F0B8C00A60B1CE1D7E819D7A431D7C90EA0E5F }
  | p521 => {
      prime := 0x1FFFFFFFFFFFFFFFFFFFFFFFFFFFFFFFFFFFFFFFFFFFFFFFFFFFFFFFFFFFFFFFFFFFFFFFFFFFFFFFFFFFFFFFFFFFFFFFFFFFFFFFFFFFFFFFFFFFFFFFFFFFFFFFFFF
      order := 0x01FFFFFFFFFFFFFFFFFFFFFFFFFFFFFFFFFFFFFFFFFFFFFFFFFFFFFFFFFFFFFFFFFA51868783BF2F966B7FCC0148F709A5D03BB5C9B8899C47AEBB6FB71E91386409
      baseX := 0x00C6858E06B70404E9CD9E3ECB662395B4429C648139053FB521F828AF606B4D3DBAA14B5E77EFE75928FE1DC127A2FFA8DE3348B3C1856A429BF97E7E31C2E5BD66
      baseY := 0x011839296A789A3BC0045C8A5FB42C7D1BD998F54449579B446817AFBD17273E662C97EE72995EF42640C550B9013FAD0761353C7086A272C24088BE94769FD16650 }

/-- The number of bytes of a coordinate or a scalar. -/
def size : Curve → Nat
  | p256 => 32
  | p384 => 48
  | p521 => 66

/-- The number of scalars, counting zero. -/
def order (curve : Curve) : Nat := curve.weierstrass.order

/-- The identifier of the curve. -/
def oid : Curve → Oid
  | p256 => ⟨[0x2A, 0x86, 0x48, 0xCE, 0x3D, 0x03, 0x01, 0x07], by decide⟩
  | p384 => ⟨[0x2B, 0x81, 0x04, 0x00, 0x22], by decide⟩
  | p521 => ⟨[0x2B, 0x81, 0x04, 0x00, 0x23], by decide⟩

/-- The curve with this identifier. -/
def ofOid? (oid : Oid) : Option Curve :=
  all.find? (·.oid = oid)

/-- The coordinates of the public point of a scalar. -/
def publicPoint (curve : Curve) (scalar : Nat) : Nat × Nat :=
  curve.weierstrass.affine (curve.weierstrass.multiple curve.weierstrass.base scalar)

end Curve

end SealedKey.Ec
