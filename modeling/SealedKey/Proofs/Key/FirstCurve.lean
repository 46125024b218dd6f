import SealedKey.Proofs.Key.Container
import Mathlib.Data.List.Pairwise

/-!
# Finding the curve of a key

A document of a key on a curve may name the curve, but the reader tries the curves in turn and never
looks at the name.  What decides instead is said by two predicates:

* `Ec.Document.Holds`: the scalar has a length that fits the curve of the key, and a public key in
  the document is that of the key.
* `Ec.Document.HoldsFirst`: there is no such key on a smaller curve.

A scalar of the full length of a curve fits no smaller one (`Ec.Document.holdsFirst_padded`), and
a public key fits one curve only (`Ec.Document.Holds.eq_of_publicKey`).  Such documents give the key
that they were written for.  `PrivateKey.ofPem_of_ecDocument` puts this together, and
`PrivateKey.ofPem_secp256k1` is a key of another curve that is read as one of `p256`.
-/

namespace SealedKey

open Der (maxLength)

namespace Ec

variable {document : Document} {key key' : Key} {bytes : Bytes}

/-! ## The first curve -/

/-- A document holds a key, and none on a smaller curve. -/
structure Document.HoldsFirst (document : Document) (key : Key) : Prop
    extends document.Holds key where
  size_le : ∀ other, document.Holds other → key.curve.size ≤ other.curve.size

theorem Curve.size_injective : Function.Injective size := by
  intro curve curve' h
  cases curve <;> cases curve' <;> first | rfl | exact absurd h (by decide)

theorem Curve.mem_all (curve : Curve) : curve ∈ all := by
  cases curve <;> decide

theorem Curve.pairwise_all : all.Pairwise fun curve curve' => curve.size < curve'.size := by
  decide

theorem Document.HoldsFirst.eq (h : document.HoldsFirst key) (h' : document.HoldsFirst key') :
    key = key' := by
  have hsize := Nat.le_antisymm (h.size_le key' h'.toHolds) (h'.size_le key h.toHolds)
  exact h.toHolds.eq_of_curve h'.toHolds (Curve.size_injective hsize)

/-- The curve that is found is the smallest one. -/
theorem Key.holdsFirst_of_ofDerAnyCurve? (hread : Document.ofDer bytes = .ok document)
    (h : ofDerAnyCurve? bytes = some key) : document.HoldsFirst key := by
  obtain ⟨before, curve, after, hall, hkey, hbefore⟩ := List.findSome?_eq_some_iff.1 h
  obtain ⟨rfl, hholds⟩ := (ofDer_eq_ok_iff hread).1 (toOption_ofDer_eq_some_iff.1 hkey)
  refine ⟨hholds, fun other hother => ?_⟩
  have hmem := other.curve.mem_all
  have hsorted := Curve.pairwise_all
  rw [hall] at hmem hsorted
  rcases List.mem_append.1 hmem with hmem | hmem
  · -- the curves before were tried and have no key
    have hsome := toOption_ofDer_eq_some_iff.2 ((ofDer_eq_ok_iff hread).2 ⟨rfl, hother⟩)
    cases (hbefore _ hmem).symm.trans hsome
  · rcases List.mem_cons.1 hmem with heq | hmem
    · exact Nat.le_of_eq (congrArg Curve.size heq.symm)
    · have hafter := (List.pairwise_append.1 hsorted).2.1
      exact Nat.le_of_lt (List.rel_of_pairwise_cons hafter hmem)

theorem Key.ofDerAnyCurve?_eq_some_iff (hread : Document.ofDer bytes = .ok document) :
    ofDerAnyCurve? bytes = some key ↔ document.HoldsFirst key := by
  refine ⟨holdsFirst_of_ofDerAnyCurve? hread, fun h => ?_⟩
  obtain ⟨key', hkey'⟩ := exists_ofDerAnyCurve? ((ofDer_eq_ok_iff hread).2 ⟨rfl, h.toHolds⟩)
  rw [hkey', h.eq (holdsFirst_of_ofDerAnyCurve? hread hkey')]

theorem Key.exists_ofDer_of_ofDerAnyCurve? (h : ofDerAnyCurve? bytes = some key) :
    ∃ document, Document.ofDer bytes = .ok document := by
  obtain ⟨document, hread, -⟩ := Except.bind_eq_ok_iff.1 (ofDer_of_ofDerAnyCurve? h)
  exact ⟨document, hread⟩

/-! ## What decides the curve -/

/-- The whole scalar of a key is on no smaller curve. -/
theorem Document.holdsFirst_padded
    (hscalar : document.scalar = BigEndian.padded key.curve.size key.scalar)
    (hpublic : ∀ bytes ∈ document.publicKey, key.IsPublicKey bytes) :
    document.HoldsFirst key := by
  have hlength : document.scalar.length = key.curve.size := by
    rw [hscalar, BigEndian.length_padded]
  exact ⟨holds_padded hscalar hpublic, fun other hother => hlength ▸ hother.length_scalar_le⟩

theorem Key.length_compressedPublicKey (key : Key) :
    key.compressedPublicKey.length = 1 + key.curve.size := by
  simp only [compressedPublicKey, List.length_cons, BigEndian.length_padded]
  omega

theorem Key.IsPublicKey.length_eq (h : key.IsPublicKey bytes) :
    bytes.length = 1 + 2 * key.curve.size ∨ bytes.length = 1 + key.curve.size := by
  rcases h with rfl | rfl
  · exact .inl key.length_publicKey
  · exact .inr key.length_compressedPublicKey

/-- The length of a public key, in either form, is that of one curve only. -/
theorem Key.IsPublicKey.curve_eq (h : key.IsPublicKey bytes) (h' : key'.IsPublicKey bytes) :
    key.curve = key'.curve := by
  have hlength := h.length_eq
  have hlength' := h'.length_eq
  cases hcurve : key.curve <;> cases hcurve' : key'.curve <;>
    simp only [hcurve, hcurve', Curve.size] at hlength hlength' <;> first | rfl | omega

theorem Document.Holds.eq_of_publicKey (h : document.Holds key) (h' : document.Holds key')
    (hbytes : document.publicKey = some bytes) : key = key' :=
  h.eq_of_curve h' ((h.isPublicKey bytes hbytes).curve_eq (h'.isPublicKey bytes hbytes))

/-- The documents of a key are short, with or without its curve and its public key. -/
theorem Document.length_encode_padded_le
    (hscalar : document.scalar = BigEndian.padded key.curve.size key.scalar)
    (hpublic : ∀ bytes ∈ document.publicKey, key.IsPublicKey bytes) :
    document.encode.length ≤ 300 := by
  have hsize := Key.size_le key.curve
  refine Document.length_encode_le (by rwa [hscalar, BigEndian.length_padded]) ?_
  intro bytes hbytes
  have := (hpublic bytes hbytes).length_eq
  omega

theorem Curve.minLength_le_oid (curve : Curve) : Oid.minLength ≤ curve.oid.encoding.length := by
  cases curve <;> decide

end Ec

/-! ## Texts -/

namespace PrivateKey

variable {text : String} {bytes : Bytes}

theorem ofSec1_eq_ok_iff_holdsFirst {key : PrivateKey} :
    ofSec1 bytes = .ok key ↔ ∃ document key', Ec.Document.ofDer bytes = .ok document ∧
      document.HoldsFirst key' ∧ key = ec key' := by
  constructor
  · intro h
    obtain ⟨key', hkey', rfl⟩ := ofSec1_eq_ok_iff.1 h
    obtain ⟨document, hread⟩ := Ec.Key.exists_ofDer_of_ofDerAnyCurve? hkey'
    exact ⟨document, key', hread, Ec.Key.holdsFirst_of_ofDerAnyCurve? hread hkey', rfl⟩
  · rintro ⟨document, key', hread, hfirst, rfl⟩
    exact ofSec1_eq_ok_iff.2 ⟨key', (Ec.Key.ofDerAnyCurve?_eq_some_iff hread).2 hfirst, rfl⟩

/-- A document with the whole scalar of a key gives the key.  It may name the curve of the key, and
hold its public key. -/
theorem ofSec1_encode {document : Ec.Document} {key : Ec.Key}
    (hscalar : document.scalar = BigEndian.padded key.curve.size key.scalar)
    (hcurve : ∀ oid ∈ document.curve, oid = key.curve.oid)
    (hpublic : ∀ bytes ∈ document.publicKey, key.IsPublicKey bytes) :
    ofSec1 document.encode = .ok (ec key) := by
  have hlength := Nat.le_trans (Ec.Document.length_encode_padded_le hscalar hpublic)
    (by decide : 300 ≤ maxLength)
  have hread : Ec.Document.ofDer document.encode = .ok document := by
    refine Ec.Document.ofDer_encode hlength fun oid hoid => ?_
    rw [hcurve oid hoid]
    exact key.curve.minLength_le_oid
  have hfirst := Ec.Document.holdsFirst_padded hscalar hpublic
  exact ofSec1_eq_ok_iff_holdsFirst.2 ⟨document, key, hread, hfirst, rfl⟩

/-- Finding the curve of a key.  A document with the whole scalar of a key gives the key, if it
names its curve or none and holds its public key or none.  In general, a document gives the key on
the smallest curve that it holds a key for, whatever curve it names.  If the document has a public
key, this is the public key of the key, and the document holds no other key. -/
theorem ofPem_of_ecDocument (h : Pem.privateKeyBlock text = .ok ⟨Label.ecPrivateKey, bytes⟩) :
    (∀ (key : Ec.Key) (document : Ec.Document), bytes = document.encode →
      document.scalar = BigEndian.padded key.curve.size key.scalar →
      (∀ oid ∈ document.curve, oid = key.curve.oid) →
      (∀ publicKey ∈ document.publicKey, key.IsPublicKey publicKey) →
        ofPem text = .ok (ec key)) ∧
    (∀ key, ofPem text = .ok key ↔ ∃ document key', Ec.Document.ofDer bytes = .ok document ∧
      document.HoldsFirst key' ∧ key = ec key') ∧
    ∀ key document publicKey, ofPem text = .ok key → Ec.Document.ofDer bytes = .ok document →
      document.publicKey = some publicKey → ∃ key', key = ec key' ∧
        key'.IsPublicKey publicKey ∧ ∀ other, document.Holds other → other = key' := by
  rw [ofPem_of_ecPrivateKey h]
  refine ⟨?_, fun key => ofSec1_eq_ok_iff_holdsFirst, ?_⟩
  · rintro key document rfl hscalar hcurve hpublic
    exact ofSec1_encode hscalar hcurve hpublic
  · intro key document publicKey hkey hread hpublic
    obtain ⟨document', key', hread', hfirst, rfl⟩ := ofSec1_eq_ok_iff_holdsFirst.1 hkey
    cases hread.symm.trans hread'
    exact ⟨key', rfl, hfirst.isPublicKey publicKey hpublic,
      fun other hother => hother.eq_of_publicKey hfirst.toHolds hpublic⟩

/-! ### A key that names its curve, and a key of another curve -/

/-- A key with the base point as its public key. -/
def baseKey (curve : Ec.Curve) : Ec.Key :=
  ⟨curve, 1, by decide, by cases curve <;> decide⟩

/-- A document of a key with its curve and its public key. -/
def baseDocument (curve : Ec.Curve) : Ec.Document where
  scalar := BigEndian.padded curve.size 1
  curve := some curve.oid
  publicKey := some (baseKey curve).publicKey

/-- A document with all fields gives the key. -/
theorem ofPem_baseDocument_p384 :
    ofPem (Pem.Block.mk Label.ecPrivateKey (baseDocument .p384).encode).toText =
      .ok (ec (baseKey .p384)) := by
  have hblock := Pem.privateKeyBlock_toText_of_notMem Label.ecPrivateKey (by decide) (by decide)
    (baseDocument .p384).encode
  refine (ofPem_of_ecDocument hblock).1 (baseKey .p384) (baseDocument .p384) rfl rfl ?_ ?_
  · rintro _ ⟨⟩
    rfl
  · rintro _ ⟨⟩
    exact .inl rfl

/-- A document of a key on the curve secp256k1. -/
def secp256k1Document : Ec.Document where
  scalar := List.replicate 32 1
  curve := some secp256k1
  publicKey := none

/-- It is read as a key on the curve of the same size. -/
theorem ofPem_secp256k1 :
    Ec.Document.ofDer secp256k1Document.encode = .ok secp256k1Document ∧
    secp256k1Document.curve = some secp256k1 ∧ secp256k1 ≠ Ec.Curve.p256.oid ∧
    ∃ key, ofPem (Pem.Block.mk Label.ecPrivateKey secp256k1Document.encode).toText = .ok key ∧
      key.algorithm = .ecdsa .p256 := by
  have hread : Ec.Document.ofDer secp256k1Document.encode = .ok secp256k1Document := by
    refine Ec.Document.ofDer_encode (by decide) ?_
    rintro _ ⟨⟩
    decide
  have hblock := Pem.privateKeyBlock_toText_of_notMem Label.ecPrivateKey (by decide) (by decide)
    secp256k1Document.encode
  let key : Ec.Key := ⟨.p256, BigEndian.toNat (List.replicate 32 1), by decide, by decide⟩
  have hfirst : secp256k1Document.HoldsFirst key := by
    refine Ec.Document.holdsFirst_padded (BigEndian.padded_toNat _).symm ?_
    rintro _ ⟨⟩
  refine ⟨hread, rfl, by decide, ec key, ?_, rfl⟩
  rw [ofPem_of_ecPrivateKey hblock]
  exact ofSec1_eq_ok_iff_holdsFirst.2 ⟨_, key, hread, hfirst, rfl⟩

end PrivateKey

end SealedKey
