import SealedKey.Proofs.Key.Container
import SealedKey.Proofs.Key.Contents

/-!
# Public keys inside private key documents

A document of a typed key can say the public key in two places: in a field of its own, and for a
key on a curve in the private key.  `PrivateKey.exists_publicKey_of_ofPkcs8` says which of them are
compared with the public key that the private key gives:

* The public key in the private key of a curve is, and it may be in either form
  (`Ec.Curve.SamePoint`).
* The field of the document is for Ed25519 only.  The other typed keys are read whatever it says,
  so a document of the RSA key of 3 and 5 may say that its public key is that of 3 and 11
  (`PrivateKey.ofPkcs8_swapped`).
-/

namespace SealedKey

open Pkcs8 (PrivateKeyInfo PublicKeyInfo)

/-! ## Points -/

namespace Ec

/-- The two written forms of a point: both coordinates, or the first one and the parity of the
second. -/
def Curve.Writes (curve : Curve) (point : Nat × Nat) (bytes : Bytes) : Prop :=
  bytes = 4 :: BigEndian.padded curve.size point.1 ++ BigEndian.padded curve.size point.2 ∨
    bytes = (if point.2 % 2 = 0 then 2 else 3) :: BigEndian.padded curve.size point.1

/-- Bytes that write the same point. -/
def Curve.SamePoint (curve : Curve) (bytes bytes' : Bytes) : Prop :=
  ∃ point, curve.Writes point bytes ∧ curve.Writes point bytes'

namespace Key

variable {curve : Curve} {bytes : Bytes} {key : Key}

theorem IsPublicKey.samePoint (h : key.IsPublicKey bytes) :
    key.curve.SamePoint bytes key.publicKey :=
  ⟨key.curve.publicPoint key.scalar, h, .inl rfl⟩

/-- A public key in the document of a key on a curve is that of the key. -/
theorem exists_document_of_ofDer (h : ofDer curve bytes = .ok key) :
    ∃ document, Document.ofDer bytes = .ok document ∧
      ∀ bytes ∈ document.publicKey, key.IsPublicKey bytes := by
  obtain ⟨document, hread, h⟩ := Except.bind_eq_ok_iff.1 h
  exact ⟨document, hread, (ofDocument_eq_ok_iff.1 h).2.isPublicKey⟩

end Key

end Ec

/-! ## The public key field -/

namespace PrivateKey

variable {document document' : Bytes} {info info' : PrivateKeyInfo} {key : PrivateKey}

/-- The public key that a document says is the one that is exported, as far as it is compared. -/
theorem ofPkcs8_eq_ok_iff_of_eq (hread : PrivateKeyInfo.ofDer document = .ok info)
    (h : ofPkcs8 document = .ok key) (hkey : key.IsTyped)
    (hread' : PrivateKeyInfo.ofDer document' = .ok info')
    (halgorithm : info'.algorithm = info.algorithm)
    (hprivate : info'.privateKey = info.privateKey) :
    ofPkcs8 document' = .ok key ↔
      ∀ key', key = ed25519 key' → ∀ bytes ∈ info'.publicKey, bytes = key'.publicKey := by
  have hgives := (ofPkcs8_eq_ok_iff hread).1 h
  rw [ofPkcs8_eq_ok_iff hread']
  cases key with
  | rsa key =>
    obtain ⟨hrsa, hdocument⟩ := hgives
    exact iff_of_true ⟨halgorithm.trans hrsa, hprivate ▸ hdocument⟩ (by rintro _ ⟨⟩)
  | ec key =>
    obtain ⟨hec, hdocument⟩ := hgives
    exact iff_of_true ⟨halgorithm.trans hec, hprivate ▸ hdocument⟩ (by rintro _ ⟨⟩)
  | ed25519 key =>
    obtain ⟨hed25519, hseed, -⟩ := hgives
    constructor
    · rintro ⟨-, -, hpublic⟩ _ ⟨⟩
      exact hpublic
    · intro hpublic
      exact ⟨halgorithm.trans hed25519, hprivate.trans hseed, hpublic key rfl⟩
  | untyped key => exact hkey.elim

theorem IsTyped.hasPublicKey (hkey : key.IsTyped) : key.HasPublicKey := by
  cases key with
  | untyped _ => exact hkey.elim
  | _ => trivial

theorem publicKey_of_publicKeyInfo_ed25519 {key : Ed25519.Key} {publicInfo : PublicKeyInfo}
    (h : (ed25519 key).publicKeyInfo = .ok publicInfo) : publicInfo.publicKey = key.publicKey := by
  rw [← Except.pure_eq_ok_iff.1 h]

/-- What a document of a typed key says about the public key.  In the private key of a key on a
curve, it is the same point as the public key that is exported.  The field of the document says the
public key that is exported if the key is one for Ed25519, and is not looked at otherwise: it can
say anything, and the document still gives the key. -/
theorem exists_publicKey_of_ofPkcs8 (h : ofPkcs8 document = .ok key) (hkey : key.IsTyped) :
    ∃ info exported publicInfo, PrivateKeyInfo.ofDer document = .ok info ∧
      key.publicKeyDocument = .ok exported ∧ PublicKeyInfo.ofDer exported = .ok publicInfo ∧
      (∀ key', key = ec key' → ∃ inner, Ec.Document.ofDer info.privateKey = .ok inner ∧
        ∀ bytes ∈ inner.publicKey, key'.curve.SamePoint bytes publicInfo.publicKey) ∧
      (∀ key', key = ed25519 key' → ∀ bytes ∈ info.publicKey, bytes = publicInfo.publicKey) ∧
      ∀ document' info', PrivateKeyInfo.ofDer document' = .ok info' →
        info'.algorithm = info.algorithm → info'.privateKey = info.privateKey →
          (ofPkcs8 document' = .ok key ↔ ∀ key', key = ed25519 key' →
            ∀ bytes ∈ info'.publicKey, bytes = publicInfo.publicKey) := by
  obtain ⟨info, hinfo⟩ := exists_ofDer_of_ofPkcs8 h
  obtain ⟨exported, hexported⟩ := exists_publicKeyDocument (wasRead_of_ofPkcs8 h) hkey.hasPublicKey
  obtain ⟨publicInfo, hpublic, hread, -⟩ := exists_ofDer_of_publicKeyDocument hinfo h hexported
  refine ⟨info, exported, publicInfo, hinfo, hexported, hread, ?_, ?_, ?_⟩
  · rintro key' rfl
    rw [← Except.pure_eq_ok_iff.1 hpublic]
    obtain ⟨-, hprivate⟩ := (ofPkcs8_eq_ok_iff hinfo).1 h
    obtain ⟨inner, hinner, hsame⟩ := key'.exists_document_of_ofDer hprivate
    exact ⟨inner, hinner, fun bytes hbytes => (hsame bytes hbytes).samePoint⟩
  · rintro key' rfl
    rw [publicKey_of_publicKeyInfo_ed25519 hpublic]
    obtain ⟨-, -, hsame⟩ := (ofPkcs8_eq_ok_iff hinfo).1 h
    exact hsame
  · intro document' info' hinfo' halgorithm hprivate
    rw [ofPkcs8_eq_ok_iff_of_eq hinfo h hkey hinfo' halgorithm hprivate]
    refine forall₂_congr fun key' heq => ?_
    subst heq
    rw [publicKey_of_publicKeyInfo_ed25519 hpublic]

/-! ### Documents with the public key of another key -/

/-- The RSA key of the factors 3 and 5, perhaps with a public key. -/
def rsaInfo15 (publicKey : Option Bytes) : PrivateKeyInfo :=
  ⟨Pkcs8.rsaAlgorithm, rsaDocument15.encode, publicKey⟩

/-- The public key of the factors 3 and 11. -/
def rsaPublicKey33 : Rsa.PublicKey := ⟨33, 3⟩

theorem ofDer_rsaInfo15 : PrivateKeyInfo.ofDer (rsaInfo15 (some rsaPublicKey33.encode)).encode =
    .ok (rsaInfo15 (some rsaPublicKey33.encode)) :=
  PrivateKeyInfo.ofDer_encode (by decide) (by decide)

theorem ofPkcs8_rsaInfo15 {publicKey : Option Bytes}
    (hread : PrivateKeyInfo.ofDer document = .ok (rsaInfo15 publicKey)) :
    ofPkcs8 document = .ok (rsa rsaKey15) :=
  (ofPkcs8_eq_ok_iff hread).2 ⟨rfl, ofPkcs1_rsaKey15⟩

/-- The Ed25519 key of a seed of zeros, perhaps with a public key. -/
def zeroSeedInfo (publicKey : Option Bytes) : PrivateKeyInfo :=
  ⟨Pkcs8.ed25519Algorithm, Ed25519.Key.seedHeader ++ List.replicate 32 0, publicKey⟩

/-- With a public key that is not its own, the RSA key is read and the Ed25519 key is not. -/
theorem ofPkcs8_with_publicKey :
    (∃ key, ofPkcs8 (rsaInfo15 none).encode = .ok key ∧ key.IsTyped ∧
      ofPkcs8 (rsaInfo15 (some rsaPublicKey33.encode)).encode = .ok key) ∧
    ∃ key, ofPkcs8 (zeroSeedInfo none).encode = .ok key ∧ key.IsTyped ∧
      ofPkcs8 (zeroSeedInfo (some [])).encode ≠ .ok key := by
  constructor
  · have hread : PrivateKeyInfo.ofDer (rsaInfo15 none).encode = .ok (rsaInfo15 none) :=
      PrivateKeyInfo.ofDer_encode (by decide) (by decide)
    have hkey := ofPkcs8_rsaInfo15 hread
    obtain ⟨info, _, _, hinfo, -, -, -, -, hsame⟩ := exists_publicKey_of_ofPkcs8 hkey trivial
    obtain rfl := Except.ok.inj (hread.symm.trans hinfo)
    exact ⟨_, hkey, trivial, (hsame _ _ ofDer_rsaInfo15 rfl rfl).2 (by rintro _ ⟨⟩)⟩
  · have hread : PrivateKeyInfo.ofDer (zeroSeedInfo none).encode = .ok (zeroSeedInfo none) :=
      PrivateKeyInfo.ofDer_encode (by decide) (by decide)
    have hkey : ofPkcs8 (zeroSeedInfo none).encode = .ok (ed25519 ⟨List.replicate 32 0, rfl⟩) :=
      (ofPkcs8_eq_ok_iff hread).2 ⟨rfl, rfl, nofun⟩
    obtain ⟨info, exported, publicInfo, hinfo, hexported, hpublic, -, -, hsame⟩ :=
      exists_publicKey_of_ofPkcs8 hkey trivial
    obtain rfl := Except.ok.inj (hread.symm.trans hinfo)
    have hread' : PrivateKeyInfo.ofDer (zeroSeedInfo (some [])).encode =
        .ok (zeroSeedInfo (some [])) := PrivateKeyInfo.ofDer_encode (by decide) (by decide)
    refine ⟨_, hkey, trivial, fun hkey' => ?_⟩
    have hempty := (hsame _ _ hread' rfl rfl).1 hkey' _ rfl [] rfl
    -- a public key has 32 bytes
    obtain ⟨_, hown, hpublic', -⟩ := exists_ofDer_of_publicKeyDocument hread hkey hexported
    obtain rfl := Except.ok.inj (hpublic.symm.trans hpublic')
    have hlength := congrArg List.length (hempty.trans (publicKey_of_publicKeyInfo_ed25519 hown))
    rw [Ed25519.Key.publicKey, Ed25519.Point.length_encode] at hlength
    contradiction

/-- The public key that the document of the RSA key says is not the one that is exported. -/
theorem ofPkcs8_swapped : ∃ info key embedded exported publicInfo,
    PrivateKeyInfo.ofDer info.encode = .ok info ∧ ofPkcs8 info.encode = .ok key ∧ key.IsTyped ∧
      info.publicKey = some embedded ∧ Rsa.PublicKey.ofDer embedded = .ok rsaPublicKey33 ∧
      key.publicKeyDocument = .ok exported ∧ PublicKeyInfo.ofDer exported = .ok publicInfo ∧
      Rsa.PublicKey.ofDer publicInfo.publicKey = .ok rsaKey15.publicKey ∧
      rsaKey15.publicKey ≠ rsaPublicKey33 := by
  have hpublic : (rsa rsaKey15).publicKeyInfo =
      .ok ⟨Pkcs8.rsaAlgorithm, rsaKey15.publicKey.encode⟩ := rfl
  exact ⟨_, _, _, _, _, ofDer_rsaInfo15, ofPkcs8_rsaInfo15 ofDer_rsaInfo15, trivial, rfl,
    Rsa.PublicKey.ofDer_eq_ok_iff.2 ⟨by decide, rfl⟩, publicKeyDocument_eq_ok hpublic (by decide),
    PublicKeyInfo.ofDer_eq_ok_iff.2 ⟨by decide, by decide, rfl⟩,
    Rsa.PublicKey.ofDer_eq_ok_iff.2 ⟨by decide, rfl⟩, by decide⟩

end PrivateKey

end SealedKey
