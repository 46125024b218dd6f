import SealedKey.Bytes.Lemmas
import SealedKey.Ec.Key
import SealedKey.Proofs.Except

/-!
# The keys that a document holds

A document of a key on a curve may name a curve, but this plays no part when it is read on one.
`Document.Holds` says which keys it holds, on whatever curve, and `Key.ofDocument_eq_ok_iff` that
these are the keys that are read.
-/

namespace SealedKey.Ec

variable {curve : Curve} {document : Document} {key key' : Key} {bytes : Bytes}

/-- A document holds a key, on whatever curve it names. -/
structure Document.Holds (document : Document) (key : Key) : Prop where
  /-- The scalar has as many bytes as the curve, or somewhat fewer. -/
  fits : document.scalar.length = key.curve.size ∨
    (Key.minScalarSize ≤ document.scalar.length ∧ document.scalar.length < key.curve.size)
  toNat_scalar : BigEndian.toNat document.scalar = key.scalar
  isPublicKey : ∀ bytes ∈ document.publicKey, key.IsPublicKey bytes

theorem Curve.order_lt (curve : Curve) : curve.order < 256 ^ curve.size := by
  cases curve <;> decide

/-! ## Reading keys -/

namespace Key

theorem eq_of_scalar_eq (hcurve : key.curve = key'.curve) (hscalar : key.scalar = key'.scalar) :
    key = key' := by
  cases key
  cases key'
  cases hcurve
  cases hscalar
  rfl

theorem ofScalar?_eq_some_iff {scalar : Nat} :
    ofScalar? curve scalar = some key ↔ key.curve = curve ∧ scalar = key.scalar := by
  unfold ofScalar?
  constructor
  · intro h
    split at h
    · cases h
      exact ⟨rfl, rfl⟩
    · contradiction
  · rintro ⟨rfl, rfl⟩
    exact dif_pos ⟨key.scalar_pos, key.scalar_lt_order⟩

theorem ofScalarBytes?_eq_some_iff : ofScalarBytes? curve bytes = some key ↔
    key.curve = curve ∧ BigEndian.toNat bytes = key.scalar ∧ (bytes.length = key.curve.size ∨
      (minScalarSize ≤ bytes.length ∧ bytes.length < key.curve.size)) := by
  unfold ofScalarBytes?
  constructor
  · intro h
    split at h
    · rename_i hfits
      obtain ⟨rfl, hscalar⟩ := ofScalar?_eq_some_iff.1 h
      exact ⟨rfl, hscalar, hfits⟩
    · contradiction
  · rintro ⟨rfl, hscalar, hfits⟩
    rw [if_pos hfits]
    exact ofScalar?_eq_some_iff.2 ⟨rfl, hscalar⟩

/-- A document gives the key on a curve that it holds. -/
theorem ofDocument_eq_ok_iff :
    ofDocument curve document = .ok key ↔ key.curve = curve ∧ document.Holds key := by
  unfold ofDocument
  constructor
  · intro h
    split at h
    · rename_i key' hkey
      obtain ⟨hcurve, hscalar, hfits⟩ := ofScalarBytes?_eq_some_iff.1 hkey
      split at h
      · rename_i hnone
        cases h
        exact ⟨hcurve, hfits, hscalar, by simp [hnone]⟩
      · rename_i publicKey hsome
        split at h
        · rename_i hpublic
          cases h
          exact ⟨hcurve, hfits, hscalar, by simpa [hsome] using hpublic⟩
        · contradiction
    · contradiction
  · rintro ⟨hcurve, hholds⟩
    rw [ofScalarBytes?_eq_some_iff.2 ⟨hcurve, hholds.toNat_scalar, hholds.fits⟩]
    cases hpublic : document.publicKey with
    | none => rfl
    | some publicKey => exact if_pos (hholds.isPublicKey publicKey hpublic)

theorem ofDer_eq_ok_iff (hread : Document.ofDer bytes = .ok document) :
    ofDer curve bytes = .ok key ↔ key.curve = curve ∧ document.Holds key := by
  rw [ofDer, hread, Except.bind_ok]
  exact ofDocument_eq_ok_iff

/-- A key that was read on a curve is on this curve. -/
theorem curve_of_ofDer (h : ofDer curve bytes = .ok key) : key.curve = curve := by
  obtain ⟨document, -, h⟩ := Except.bind_eq_ok_iff.1 h
  exact (ofDocument_eq_ok_iff.1 h).1

end Key

/-! ## Documents that hold a key -/

/-- The whole scalar of a key holds the key. -/
theorem Document.holds_padded
    (hscalar : document.scalar = BigEndian.padded key.curve.size key.scalar)
    (hpublic : ∀ bytes ∈ document.publicKey, key.IsPublicKey bytes) : document.Holds key := by
  have hlt : key.scalar < 256 ^ key.curve.size :=
    Nat.lt_trans key.scalar_lt_order key.curve.order_lt
  refine ⟨.inl ?_, ?_, hpublic⟩
  · rw [hscalar, BigEndian.length_padded]
  · rw [hscalar, BigEndian.toNat_padded hlt]

theorem Document.Holds.length_scalar_le (h : document.Holds key) :
    document.scalar.length ≤ key.curve.size := by
  rcases h.fits with hfull | ⟨-, hshort⟩
  · exact Nat.le_of_eq hfull
  · exact Nat.le_of_lt hshort

/-- A document holds at most one key on each curve. -/
theorem Document.Holds.eq_of_curve (h : document.Holds key) (h' : document.Holds key')
    (hcurve : key.curve = key'.curve) : key = key' :=
  Key.eq_of_scalar_eq hcurve (h.toNat_scalar.symm.trans h'.toNat_scalar)

end SealedKey.Ec
