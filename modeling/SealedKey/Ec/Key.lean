import SealedKey.Ec.Curve
import SealedKey.Ec.Document

/-!
# Private keys of the named curves

A key is a curve and a scalar between zero and the order of the base point.  Its
public key is the multiple of the base point, written with both coordinates or
with the first one and the parity of the second.

A document gives a key on a curve when its scalar has a length that fits the curve,
and its public key, if there is one, is that of the scalar.  The curve that the
document names plays no part in this.
-/

namespace SealedKey.Ec

/-- A private key of a named curve. -/
structure Key where
  /-- The curve. -/
  curve : Curve
  /-- The multiplier of the base point. -/
  scalar : Nat
  scalar_pos : 0 < scalar
  scalar_lt_order : scalar < curve.order

namespace Key

/-- The key with this scalar, if it is in range. -/
def ofScalar? (curve : Curve) (scalar : Nat) : Option Key :=
  if h : 0 < scalar ∧ scalar < curve.order then some ⟨curve, scalar, h.1, h.2⟩ else none

/-- The least number of bytes of a scalar in a document. -/
def minScalarSize : Nat := 24

/-- The key whose scalar is written by bytes: as many as the curve has, or somewhat fewer. -/
def ofScalarBytes? (curve : Curve) (bytes : Bytes) : Option Key :=
  if bytes.length = curve.size ∨ (minScalarSize ≤ bytes.length ∧ bytes.length < curve.size) then
    ofScalar? curve (BigEndian.toNat bytes)
  else none

/-! ## Public keys -/

/-- The two coordinates of the public key. -/
def publicKey (key : Key) : Bytes :=
  let (x, y) := key.curve.publicPoint key.scalar
  4 :: BigEndian.padded key.curve.size x ++ BigEndian.padded key.curve.size y

/-- The first coordinate of the public key and the parity of the second. -/
def compressedPublicKey (key : Key) : Bytes :=
  let (x, y) := key.curve.publicPoint key.scalar
  (if y % 2 = 0 then 2 else 3) :: BigEndian.padded key.curve.size x

/-- The two written forms of the public key. -/
def IsPublicKey (key : Key) (bytes : Bytes) : Prop :=
  bytes = key.publicKey ∨ bytes = key.compressedPublicKey

instance (key : Key) (bytes : Bytes) : Decidable (key.IsPublicKey bytes) :=
  inferInstanceAs (Decidable (_ ∨ _))

/-! ## Documents -/

/-- The document of a key: the whole scalar and the public key. -/
def document (key : Key) : Document where
  scalar := BigEndian.padded key.curve.size key.scalar
  curve := none
  publicKey := some key.publicKey

/-- The key on a curve that a document holds. -/
def ofDocument (curve : Curve) (document : Document) : Except Der.Error Key := do
  let some key := ofScalarBytes? curve document.scalar | throw (.malformed .sequence)
  match document.publicKey with
  | none => return key
  | some bytes =>
    if key.IsPublicKey bytes then return key else throw (.malformed .bitString)

/-- The key on a curve that the bytes of a document hold. -/
def ofDer (curve : Curve) (bytes : Bytes) : Except Der.Error Key := do
  ofDocument curve (← Document.ofDer bytes)

/-- The key that the bytes of a document hold on the first curve for which they hold one. -/
def ofDerAnyCurve? (bytes : Bytes) : Option Key :=
  Curve.all.findSome? fun curve => (ofDer curve bytes).toOption

end Key

end SealedKey.Ec
