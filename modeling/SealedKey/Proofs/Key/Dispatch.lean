import SealedKey.Proofs.Key.Document

/-!
# The algorithm of a private key document

The algorithm identifier of a private key document decides which key is read from it.  There are
three cases, and `PrivateKeyInfo.isUntyped_iff` says that they are all:

* `NamesTypedKey`: the document is read as a key of this type, or not at all.
* `LacksCurve`: the document is of a key on some curve, but its parameters are no identifier that
  could name the curve.  Such a document is refused with an encoding error
  (`PrivateKey.ofPkcs8_of_lacksCurve`), and there are no other encoding errors
  (`PrivateKey.ofPkcs8_eq_error`).
* In all other cases, the document is kept.

`PrivateKey.ofPkcs8_untyped` puts this together.
-/

namespace SealedKey

/-! ## Curves -/

namespace Ec

theorem Curve.ofOid?_eq_some_iff {oid : Oid} {curve : Curve} :
    ofOid? oid = some curve ↔ oid = curve.oid := by
  constructor
  · intro h
    have := List.find?_some h
    simpa [eq_comm] using this
  · rintro rfl
    exact curve.ofOid?_oid

/-- A curve is named by a parameter that is an identifier. -/
theorem curveOid_eq_ok_iff {algorithm : Pkcs8.AlgorithmIdentifier} {oid : Oid} :
    curveOid algorithm = .ok oid ↔ Oid.minLength ≤ oid.encoding.length ∧
      algorithm.parameters = some (Pkcs8.oidParameter oid) := by
  unfold curveOid
  split
  · rename_i hnone
    rw [hnone]
    exact iff_of_false Except.throw_ne_ok nofun
  · rename_i parameter hsome
    obtain ⟨tag, contents⟩ := parameter
    rw [hsome, Option.some.injEq, Pkcs8.oidParameter, Der.Element.mk.injEq]
    split
    · rename_i htag
      rw [and_iff_right (a := tag = _) htag, ← Oid.ofBytes?_eq_some_iff]
      split
      · rename_i oid' hoid
        rw [hoid, Except.pure_eq_ok_iff, Option.some.injEq]
      · rename_i hoid
        rw [hoid]
        exact iff_of_false Except.throw_ne_ok nofun
    · rename_i htag
      exact iff_of_false Except.throw_ne_ok fun h => htag h.2.1

end Ec

/-! ## The three cases -/

namespace Pkcs8.PrivateKeyInfo

/-- A document of an algorithm, or of a curve, that has typed keys. -/
def NamesTypedKey (info : PrivateKeyInfo) : Prop :=
  info.algorithm.oid = rsaEncryption ∨ info.algorithm.oid = ed25519 ∨
    ∃ curve, info.algorithm = ecAlgorithm curve

/-- A document of a key on a curve that does not name the curve, for this reason. -/
def LacksCurve (info : PrivateKeyInfo) (cause : AlgorithmError) : Prop :=
  info.algorithm.oid = ecPublicKey ∧ Ec.curveOid info.algorithm = .error cause

variable {info : PrivateKeyInfo}

theorem algorithm_eq_ecAlgorithm_iff {curve : Ec.Curve} :
    info.algorithm = ecAlgorithm curve ↔
      info.algorithm.oid = ecPublicKey ∧ Ec.curveOid info.algorithm = .ok curve.oid := by
  constructor
  · intro h
    rw [h]
    exact ⟨rfl, Ec.curveOid_ecAlgorithm curve⟩
  · rintro ⟨hoid, hcurve⟩
    obtain ⟨-, hparameters⟩ := Ec.curveOid_eq_ok_iff.1 hcurve
    rcases hinfo : info.algorithm with ⟨oid, parameters⟩
    rw [hinfo] at hoid hparameters
    subst hoid hparameters
    rfl

/-- A document is kept if it neither names a typed key nor lacks a curve. -/
theorem isUntyped_iff :
    info.IsUntyped ↔ ¬ info.NamesTypedKey ∧ ∀ cause, ¬ info.LacksCurve cause := by
  constructor
  · intro h
    refine ⟨?_, ?_⟩
    · rintro (hrsa | hed25519 | ⟨curve, hcurve⟩)
      · exact h.ne_rsa hrsa
      · exact h.ne_ed25519 hed25519
      · obtain ⟨hec, hoid⟩ := algorithm_eq_ecAlgorithm_iff.1 hcurve
        obtain ⟨oid, hoid', hunknown⟩ := h.unknown_curve hec
        cases hoid.symm.trans hoid'
        exact nomatch hunknown.symm.trans curve.ofOid?_oid
    · rintro cause ⟨hec, herror⟩
      obtain ⟨oid, hoid, -⟩ := h.unknown_curve hec
      exact nomatch herror.symm.trans hoid
  · rintro ⟨htyped, hcurve⟩
    refine ⟨fun h => htyped (.inl h), fun h => htyped (.inr (.inl h)), fun hec => ?_⟩
    rcases hoid : Ec.curveOid info.algorithm with cause | oid
    · exact absurd ⟨hec, hoid⟩ (hcurve cause)
    · refine ⟨oid, rfl, ?_⟩
      rcases hunknown : Ec.Curve.ofOid? oid with _ | curve
      · rfl
      · rw [Ec.Curve.ofOid?_eq_some_iff.1 hunknown] at hoid
        exact absurd (.inr (.inr ⟨curve, algorithm_eq_ecAlgorithm_iff.2 ⟨hec, hoid⟩⟩)) htyped

end Pkcs8.PrivateKeyInfo

namespace PrivateKey

open Pkcs8 (PrivateKeyInfo)

variable {document : Bytes} {info : PrivateKeyInfo}

/-! ## Refusals -/

theorem ofPkcs8_of_lacksCurve (h : PrivateKeyInfo.ofDer document = .ok info)
    {cause : AlgorithmError} (hinfo : info.LacksCurve cause) :
    ofPkcs8 document = .error (.encoding cause.message) := by
  obtain ⟨hec, herror⟩ := hinfo
  have hrsa : info.algorithm.oid ≠ Pkcs8.rsaEncryption := by
    rw [hec]
    decide
  rw [ofPkcs8_eq h, if_neg hrsa, if_pos hec, herror]
  rfl

theorem exists_decoding_of_mapError {α : Type} {result : Except KeyError α} {error : Error}
    (h : result.mapError .ofKeyError = .error error) : ∃ reason, error = .decoding reason := by
  obtain ⟨cause, -, rfl⟩ := Except.mapError_eq_error_iff.1 h
  exact ⟨cause.message, rfl⟩

/-- A document that gives no key cannot be decoded, unless it lacks a curve. -/
theorem ofPkcs8_eq_error {error : Error} (h : ofPkcs8 document = .error error) :
    (∃ reason, error = .decoding reason) ∨ ∃ info cause,
      PrivateKeyInfo.ofDer document = .ok info ∧ info.LacksCurve cause ∧
        error = .encoding cause.message := by
  rcases hread : PrivateKeyInfo.ofDer document with cause | info
  · rw [ofPkcs8_of_ofDer_eq_error hread] at h
    cases h
    exact .inl ⟨_, rfl⟩
  · simp only [ofPkcs8_eq hread] at h
    split at h
    · exact .inl (exists_decoding_of_mapError h)
    · split at h
      · rename_i hec
        split at h
        · rename_i cause hcurve
          cases h
          exact .inr ⟨info, cause, rfl, ⟨hec, hcurve⟩, rfl⟩
        · split at h
          · exact .inl (exists_decoding_of_mapError h)
          · cases h
      · split at h
        · exact .inl (exists_decoding_of_mapError h)
        · cases h

/-! ## Documents that are kept -/

/-- The documents that are kept: those that name no typed key and do not lack a curve.  A document
that lacks a curve is refused. -/
theorem ofPkcs8_untyped (document : Bytes) :
    (∀ info, PrivateKeyInfo.ofDer document = .ok info → ¬ info.NamesTypedKey →
      ((∀ cause, ¬ info.LacksCurve cause) → ∃ key, ofPkcs8 document = .ok (.untyped key) ∧
        (untyped key).algorithm = .other info.algorithm.oid ∧
        (untyped key).toPkcs8 = .ok document) ∧
      ∀ cause, info.LacksCurve cause → ofPkcs8 document = .error (.encoding cause.message)) ∧
    ∀ key, ofPkcs8 document = .ok (.untyped key) → ∃ info,
      PrivateKeyInfo.ofDer document = .ok info ∧ ¬ info.NamesTypedKey ∧
        (∀ cause, ¬ info.LacksCurve cause) ∧
        (untyped key).algorithm = .other info.algorithm.oid ∧
        (untyped key).toPkcs8 = .ok document := by
  refine ⟨fun info hread htyped => ⟨fun hcurve => ?_, fun cause => ofPkcs8_of_lacksCurve hread⟩, ?_⟩
  · have huntyped := PrivateKeyInfo.isUntyped_iff.2 ⟨htyped, hcurve⟩
    exact ⟨_, ofPkcs8_of_isUntyped hread huntyped, rfl, rfl⟩
  · intro key h
    obtain ⟨rfl, huntyped⟩ := isUntyped_of_ofPkcs8_eq h
    obtain ⟨htyped, hcurve⟩ := PrivateKeyInfo.isUntyped_iff.1 huntyped
    exact ⟨key.info, key.ofDer_document, htyped, hcurve, rfl, rfl⟩

/-! ### Two documents of keys on curves -/

/-- The private key of a document on a curve of 256 bits, without its public key. -/
def shortEcKey : Bytes :=
  Der.sequence [Der.integer 1, Der.octetString (List.replicate 32 1)]

/-- The curve secp256k1: 1.3.132.0.10. -/
def secp256k1 : Oid := ⟨[0x2B, 0x81, 0x04, 0x00, 0x0A], by decide⟩

/-- A key on a curve without typed keys. -/
def secp256k1Info : PrivateKeyInfo :=
  ⟨⟨Pkcs8.ecPublicKey, some (Pkcs8.oidParameter secp256k1)⟩, shortEcKey, none⟩

/-- A key on a curve that is not named. -/
def curvelessInfo : PrivateKeyInfo :=
  ⟨⟨Pkcs8.ecPublicKey, none⟩, shortEcKey, none⟩

/-- A document of a curve without typed keys is kept. -/
theorem ofPkcs8_secp256k1 : ∃ key, ofPkcs8 secp256k1Info.encode = .ok (.untyped key) ∧
    (untyped key).algorithm = .other Pkcs8.ecPublicKey ∧
    (untyped key).toPkcs8 = .ok secp256k1Info.encode := by
  have hread : PrivateKeyInfo.ofDer secp256k1Info.encode = .ok secp256k1Info :=
    PrivateKeyInfo.ofDer_encode (by decide) (by decide)
  have htyped : ¬ secp256k1Info.NamesTypedKey := by
    rintro (h | h | ⟨curve, h⟩)
    · exact absurd h (by decide)
    · exact absurd h (by decide)
    · revert h
      cases curve <;> decide
  have hcurve (cause : AlgorithmError) : ¬ secp256k1Info.LacksCurve cause := nofun
  exact ((ofPkcs8_untyped _).1 _ hread htyped).1 hcurve

/-- A document without parameters is not. -/
theorem ofPkcs8_curveless : PrivateKeyInfo.ofDer curvelessInfo.encode = .ok curvelessInfo ∧
    ¬ curvelessInfo.NamesTypedKey ∧
    ofPkcs8 curvelessInfo.encode = .error (.encoding "AlgorithmIdentifier parameters missing") := by
  have hread : PrivateKeyInfo.ofDer curvelessInfo.encode = .ok curvelessInfo :=
    PrivateKeyInfo.ofDer_encode (by decide) (by decide)
  have hcurve : curvelessInfo.LacksCurve .parametersMissing := ⟨rfl, rfl⟩
  refine ⟨hread, ?_, ofPkcs8_of_lacksCurve hread hcurve⟩
  rintro (h | h | ⟨curve, h⟩)
  · exact absurd h (by decide)
  · exact absurd h (by decide)
  · nomatch h

end PrivateKey

end SealedKey
