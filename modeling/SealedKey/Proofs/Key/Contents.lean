import SealedKey.Proofs.Key.Dispatch
import SealedKey.Proofs.Key.PublicKey

/-!
# What a document must say

A PKCS#8 document says the algorithm of a key, the private key in the form of the algorithm, and
perhaps the public key.  `PrivateKey.ofPkcs8_eq_ok_iff` says, for each type of key, what these are
in the documents from which a key of the type is read.

The algorithm identifier is always the whole one of the type, parameters included, so that a public
key document names the algorithm of the private one (`PrivateKey.algorithm_of_publicKeyInfo`).  The
public key of the document is looked at for Ed25519 only.
-/

namespace SealedKey

open Pkcs8 (PrivateKeyInfo PublicKeyInfo)

theorem Pkcs8.AlgorithmIdentifier.eq_mk_iff {algorithm : AlgorithmIdentifier} {oid : Oid}
    {parameters : Option Der.Element} : algorithm = ⟨oid, parameters⟩ ↔
      algorithm.oid = oid ∧ algorithm.parameters = parameters := by
  cases algorithm
  rw [AlgorithmIdentifier.mk.injEq]

/-! ## Private keys -/

/-- What a document says if the key is read from it.  Only an untyped key is the document itself. -/
def Pkcs8.PrivateKeyInfo.Gives (info : PrivateKeyInfo) (document : Bytes) : PrivateKey → Prop
  | .rsa key => info.algorithm = rsaAlgorithm ∧ Rsa.Key.ofPkcs1 info.privateKey = .ok key
  | .ec key =>
    info.algorithm = ecAlgorithm key.curve ∧ Ec.Key.ofDer key.curve info.privateKey = .ok key
  | .ed25519 key =>
    info.algorithm = ed25519Algorithm ∧ info.privateKey = key.privateKey ∧
      ∀ bytes ∈ info.publicKey, bytes = key.publicKey
  | .untyped key => key.document = document ∧ info.IsUntyped

namespace PrivateKey

variable {document : Bytes} {info : PrivateKeyInfo} {key : PrivateKey}

theorem gives_of_ofPkcs8 (hread : PrivateKeyInfo.ofDer document = .ok info)
    (h : ofPkcs8 document = .ok key) : info.Gives document key := by
  obtain ⟨hrsa, key, hinfo, rfl⟩ | ⟨hec, oid, curve, key, hoid, hcurve, hinfo, rfl⟩ |
    ⟨hed25519, key, hinfo, rfl⟩ | ⟨huntyped, rfl⟩ := ofPkcs8_cases hread h
  · obtain ⟨hparameters, hdocument⟩ := Rsa.Key.ofInfo_eq_ok_iff.1 hinfo
    exact ⟨Pkcs8.AlgorithmIdentifier.eq_mk_iff.2 ⟨hrsa, hparameters⟩, hdocument⟩
  · have hdocument := Except.mapError_eq_ok_iff.1 hinfo
    obtain rfl := Ec.Key.curve_of_ofDer hdocument
    rw [Ec.Curve.ofOid?_eq_some_iff.1 hcurve] at hoid
    exact ⟨PrivateKeyInfo.algorithm_eq_ecAlgorithm_iff.2 ⟨hec, hoid⟩, hdocument⟩
  · obtain ⟨hparameters, hdocument⟩ := Ed25519.Key.ofInfo_eq_ok_iff.1 hinfo
    exact ⟨Pkcs8.AlgorithmIdentifier.eq_mk_iff.2 ⟨hed25519, hparameters⟩, hdocument⟩
  · exact ⟨rfl, huntyped⟩

/-- The keys that are read from documents: those that the contents give. -/
theorem ofPkcs8_eq_ok_iff (hread : PrivateKeyInfo.ofDer document = .ok info) :
    ofPkcs8 document = .ok key ↔ info.Gives document key := by
  refine ⟨gives_of_ofPkcs8 hread, ?_⟩
  intro h
  cases key with
  | rsa key =>
    obtain ⟨halgorithm, hdocument⟩ := h
    obtain ⟨hoid, hparameters⟩ := Pkcs8.AlgorithmIdentifier.eq_mk_iff.1 halgorithm
    rw [ofPkcs8_eq hread, if_pos hoid, Rsa.Key.ofInfo_eq_ok_iff.2 ⟨hparameters, hdocument⟩]
    rfl
  | ec key =>
    obtain ⟨halgorithm, hdocument⟩ := h
    obtain ⟨hoid, hcurve⟩ := PrivateKeyInfo.algorithm_eq_ecAlgorithm_iff.1 halgorithm
    have hrsa : Pkcs8.ecPublicKey ≠ Pkcs8.rsaEncryption := by decide
    have hinfo : Ec.Key.ofInfo key.curve info = .ok key := Except.mapError_eq_ok_iff.2 hdocument
    simp only [ofPkcs8_eq hread, hoid, hrsa, if_false, if_true, hcurve, Ec.Curve.ofOid?_oid, hinfo]
    rfl
  | ed25519 key =>
    obtain ⟨halgorithm, hprivate, hpublic⟩ := h
    obtain ⟨hoid, hparameters⟩ := Pkcs8.AlgorithmIdentifier.eq_mk_iff.1 halgorithm
    have hrsa : Pkcs8.ed25519 ≠ Pkcs8.rsaEncryption := by decide
    have hec : Pkcs8.ed25519 ≠ Pkcs8.ecPublicKey := by decide
    have hinfo := Ed25519.Key.ofInfo_eq_ok_iff.2 ⟨hparameters, hprivate, hpublic⟩
    simp only [ofPkcs8_eq hread, hoid, hrsa, hec, if_false, if_true, hinfo]
    rfl
  | untyped key =>
    obtain ⟨rfl, huntyped⟩ := h
    obtain rfl := Except.ok.inj (key.ofDer_document.symm.trans hread)
    exact ofPkcs8_of_isUntyped hread huntyped

/-! ## Public keys -/

variable {publicInfo : PublicKeyInfo}

theorem publicKeyInfo_untyped_eq_ok_iff {key : UntypedKey} :
    (untyped key).publicKeyInfo = .ok publicInfo ↔
      publicInfo.algorithm = key.info.algorithm ∧
        key.info.publicKey = some publicInfo.publicKey := by
  rcases publicInfo with ⟨algorithm, publicKey⟩
  cases hpublic : key.info.publicKey with
  | none =>
    simp only [publicKeyInfo, hpublic]
    exact iff_of_false Except.throw_ne_ok (by rintro ⟨-, ⟨⟩⟩)
  | some bytes =>
    simp only [publicKeyInfo, hpublic]
    rw [Except.pure_eq_ok_iff, PublicKeyInfo.mk.injEq, Option.some.injEq, eq_comm (a := algorithm)]

/-- An untyped key that was read from a document keeps what the document says. -/
theorem info_eq_of_ofPkcs8 (hread : PrivateKeyInfo.ofDer document = .ok info) {key : UntypedKey}
    (h : ofPkcs8 document = .ok (untyped key)) : key.info = info := by
  obtain ⟨rfl, -⟩ := isUntyped_of_ofPkcs8_eq h
  exact Except.ok.inj (key.ofDer_document.symm.trans hread)

/-- A public key is of the algorithm of the document that its key was read from. -/
theorem algorithm_of_publicKeyInfo (hread : PrivateKeyInfo.ofDer document = .ok info)
    (h : ofPkcs8 document = .ok key) (hpublic : key.publicKeyInfo = .ok publicInfo) :
    publicInfo.algorithm = info.algorithm := by
  have hgives := (ofPkcs8_eq_ok_iff hread).1 h
  cases key with
  | rsa key =>
    cases hpublic
    exact hgives.1.symm
  | ec key =>
    cases hpublic
    exact hgives.1.symm
  | ed25519 key =>
    cases hpublic
    exact hgives.1.symm
  | untyped key =>
    obtain rfl := info_eq_of_ofPkcs8 hread h
    exact (publicKeyInfo_untyped_eq_ok_iff.1 hpublic).1

theorem publicKey_of_publicKeyInfo (hread : PrivateKeyInfo.ofDer document = .ok info)
    (h : ofPkcs8 document = .ok key) (hpublic : key.publicKeyInfo = .ok publicInfo)
    (hkey : ¬ key.IsTyped) : info.publicKey = some publicInfo.publicKey := by
  obtain htyped | ⟨key, rfl⟩ := key.isTyped_or_untyped
  · exact absurd htyped hkey
  · obtain rfl := info_eq_of_ofPkcs8 hread h
    exact (publicKeyInfo_untyped_eq_ok_iff.1 hpublic).2

/-- Public key documents are read back, since they are of an algorithm that documents can name. -/
theorem exists_ofDer_of_publicKeyDocument (hread : PrivateKeyInfo.ofDer document = .ok info)
    (h : ofPkcs8 document = .ok key) {bytes : Bytes} (hbytes : key.publicKeyDocument = .ok bytes) :
    ∃ publicInfo, key.publicKeyInfo = .ok publicInfo ∧ PublicKeyInfo.ofDer bytes = .ok publicInfo ∧
      bytes = publicInfo.encode := by
  obtain ⟨publicInfo, hpublic, hlength, rfl⟩ := publicKeyDocument_eq_ok_iff.1 hbytes
  obtain ⟨-, hoid, -⟩ := PrivateKeyInfo.ofDer_eq_ok_iff.1 hread
  rw [← algorithm_of_publicKeyInfo hread h hpublic] at hoid
  exact ⟨publicInfo, hpublic, PublicKeyInfo.ofDer_eq_ok_iff.2 ⟨hlength, hoid, rfl⟩, rfl⟩

end PrivateKey

end SealedKey
