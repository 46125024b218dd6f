import SealedKey.Ec.Document
import SealedKey.Proofs.Der.Fields

/-!
# Reading back elliptic curve documents

Documents in SEC1 form are read more freely than they are written: fields with a number may be
repeated before the public key.  Here is only what is needed to read back what was written.
-/

namespace SealedKey.Ec.Document

open Der Der.Reader

/-- The curve field of a document. -/
def curveBytes (document : Document) : Bytes :=
  document.curve.elim [] fun oid => element (.explicit curveField) (Der.oid oid)

/-- The public key field of a document. -/
def publicKeyBytes (document : Document) : Bytes :=
  document.publicKey.elim [] fun bytes => element (.explicit publicKeyField) (Der.bitString bytes)

/-- The fields of a document. -/
def contents (document : Document) : Bytes :=
  integer version ++ (octetString document.scalar ++
    (document.curveBytes ++ document.publicKeyBytes))

theorem encode_eq (document : Document) :
    document.encode = element .sequence document.contents := by
  simp [encode, Der.sequence, contents, curveBytes, publicKeyBytes]

/-- The document of a scalar and a public key on a curve of at most 66 bytes is short. -/
theorem length_encode_le {document : Document} (hscalar : document.scalar.length ≤ 66)
    (hpublic : ∀ bytes ∈ document.publicKey, bytes.length ≤ 133) :
    document.encode.length ≤ 300 := by
  have hversion : (integer version).length = 3 := by decide
  have hscalar : (octetString document.scalar).length ≤ 66 + 6 :=
    length_element_le _ hscalar (by decide)
  have hcurve : document.curveBytes.length ≤ Oid.maxLength + 6 + 6 := by
    unfold curveBytes
    cases document.curve with
    | none => exact Nat.zero_le _
    | some oid =>
      have hoid : (Der.oid oid).length ≤ Oid.maxLength + 6 :=
        length_element_le _ (length_encoding_le oid) (by decide)
      exact length_element_le _ hoid (by decide)
  have hbits : document.publicKeyBytes.length ≤ 134 + 6 + 6 := by
    unfold publicKeyBytes
    cases h : document.publicKey with
    | none => exact Nat.zero_le _
    | some bytes =>
      have hbits : (Der.bitString bytes).length ≤ 134 + 6 :=
        length_element_le _ (Nat.succ_le_succ (hpublic bytes h)) (by decide)
      exact length_element_le _ hbits (by decide)
  have hmax : Oid.maxLength = 39 := rfl
  have hcontents : document.contents.length ≤ 294 := by
    simp only [contents, List.length_append]
    omega
  rw [encode_eq]
  exact length_element_le _ hcontents (by decide)

/-- The curve field is read back, also if there is none. -/
theorem curve_form {document : Document} (hmax : document.contents.length ≤ maxLength)
    (hoid : ∀ oid ∈ document.curve, Oid.minLength ≤ oid.encoding.length) :
    FieldForm curveField true (fun oid body => Oid.minLength ≤ oid.encoding.length ∧
      body = Der.oid oid) document.curve document.curveBytes document.publicKeyBytes := by
  refine ⟨[], nofun, ?_⟩
  simp only [contents, List.length_append, curveBytes, publicKeyBytes] at hmax ⊢
  cases hcurve : document.curve with
  | none =>
    refine ⟨rfl, ?_⟩
    cases document.publicKey with
    | none => exact .inl rfl
    | some bytes =>
      refine .inr ⟨.explicit publicKeyField, ?_, ⟨_, rfl⟩⟩
      rintro _ _ ⟨⟩
      decide
  | some oid =>
    rw [hcurve] at hmax
    have := length_lt_length_element (.explicit curveField) (Der.oid oid)
    simp only [Option.elim_some] at hmax
    exact ⟨Der.oid oid, by omega, ⟨hoid oid hcurve, rfl⟩, rfl⟩

theorem publicKey_form {document : Document} (hmax : document.contents.length ≤ maxLength) :
    FieldForm publicKeyField true (fun bits body => bits.WellFormed ∧
      bits.contents.length ≤ maxLength ∧ body = element .bitString bits.contents)
        (document.publicKey.map (Bits.mk 0)) document.publicKeyBytes [] := by
  refine ⟨[], nofun, ?_⟩
  simp only [contents, List.length_append, publicKeyBytes] at hmax ⊢
  cases hpublic : document.publicKey with
  | none => exact ⟨rfl, .inl rfl⟩
  | some bytes =>
    rw [hpublic] at hmax
    have := length_lt_length_element (.explicit publicKeyField) (Der.bitString bytes)
    have := length_lt_length_element .bitString (0 :: bytes)
    simp only [Option.elim_some] at hmax
    refine ⟨Der.bitString bytes, by omega, ⟨Bits.wellFormed_whole bytes, ?_, rfl⟩, rfl⟩
    rw [Der.bitString] at *
    exact Nat.le_trans (Nat.le_of_lt this) (by omega)

/-- The DER form of a document is read back, if it is not too long. -/
theorem ofDer_encode {document : Document} (hlength : document.encode.length ≤ maxLength)
    (hoid : ∀ oid ∈ document.curve, Oid.minLength ≤ oid.encoding.length) :
    ofDer document.encode = .ok document := by
  rw [encode_eq] at hlength ⊢
  have hmax := Nat.le_trans
    (Nat.le_of_lt (length_lt_length_element .sequence document.contents)) hlength
  have hscalar : document.scalar.length ≤ maxLength := by
    have := length_lt_length_element .octetString document.scalar
    simp only [contents, octetString, List.length_append] at hmax
    omega
  have hread := (reads_unsigned 1 (by decide) (by decide)).bind fun number =>
    Reads.guard (p := number ≠ version) (e := .malformed .integer) <|
    reads_octets.bind fun scalar => (reads_oid.explicitField curveField).bind fun curve =>
    (reads_bits.explicitField publicKeyField).bind fun bits? => (reads_whole bits?).bind
    fun publicKey => reads_pure (Document.mk scalar curve publicKey)
  refine (Reads.sequence hread).run_eq_ok_iff.2 ⟨hlength, _, hmax, rfl, ?_⟩
  exact ⟨version, _, _, rfl, ⟨by decide, rfl⟩, not_not.2 rfl, document.scalar, _, _, rfl,
    ⟨hscalar, rfl⟩, document.curve, _, _, rfl, (List.append_nil _).symm ▸ curve_form hmax hoid,
    document.publicKey.map (Bits.mk 0), _, [], (List.append_nil _).symm, publicKey_form hmax,
    document.publicKey, [], [], rfl, ⟨rfl, rfl⟩, rfl, rfl⟩

end SealedKey.Ec.Document
