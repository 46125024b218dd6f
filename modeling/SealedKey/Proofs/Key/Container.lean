import SealedKey.Proofs.Key.Dispatch
import SealedKey.Proofs.Key.Encryption

/-!
# Containers

The private key of an algorithm can stand in a block of its own, or in a PKCS#8 document that names
the algorithm (`Pkcs8.wrapping`).  `PrivateKey.ofPem_container` says that the container does not
matter: both blocks give the same key.

* For RSA keys, the two blocks give the same result even if it is an error
  (`PrivateKey.ofPkcs8_wrapping_rsa`).
* A block of a key on a curve does not name its curve, and the key is on the first curve for which
  there is one.  The PKCS#8 document that names this curve gives the key as well
  (`PrivateKey.ofPkcs8_wrapping_of_ofSec1`), and a block that gives no key gives none in any PKCS#8
  document (`PrivateKey.exists_ofSec1_of_ofPkcs8_wrapping`).
-/

namespace SealedKey

open Der (maxLength)

/-- The PKCS#8 document of a private key in the form of its algorithm. -/
def Pkcs8.wrapping (algorithm : AlgorithmIdentifier) (privateKey : Bytes) : Bytes :=
  PrivateKeyInfo.encode ⟨algorithm, privateKey, none⟩

namespace Pkcs8

theorem length_lt_length_wrapping (algorithm : AlgorithmIdentifier) (bytes : Bytes) :
    bytes.length < (wrapping algorithm bytes).length := by
  have h := PrivateKeyInfo.length_privateKey_lt ⟨algorithm, bytes, none⟩ ⟨[], []⟩
  rwa [PrivateKeyInfo.encodeWith_nil] at h

/-- The wrapping of an RSA key takes at most 30 bytes. -/
theorem length_wrapping_rsa_le {bytes : Bytes} (h : bytes.length + 30 ≤ maxLength) :
    (wrapping rsaAlgorithm bytes).length ≤ bytes.length + 30 := by
  have hversion : (Der.integer 0).length = 3 := by decide
  have halgorithm : rsaAlgorithm.encode.length = 15 := by decide
  have hprivate : (Der.octetString bytes).length ≤ bytes.length + 6 :=
    Der.length_element_le _ (Nat.le_refl _) (by omega)
  refine Der.length_element_le .sequence (n := bytes.length + 24) ?_ (by omega)
  simp only [PrivateKeyInfo.version, Option.isSome_none, Bool.false_eq_true, if_false,
    Option.elim_none, List.flatten_cons, List.flatten_nil, List.append_nil, List.length_append]
  omega

end Pkcs8

/-! ## Keys on curves -/

namespace Ec.Key

variable {curve : Curve} {bytes : Bytes} {key : Key}

theorem toOption_ofDer_eq_some_iff :
    (ofDer curve bytes).toOption = some key ↔ ofDer curve bytes = .ok key := by
  cases ofDer curve bytes with
  | error cause => simp [Except.toOption]
  | ok key' => simp [Except.toOption]

/-- A key that was read on any curve is read on its own curve. -/
theorem ofDer_of_ofDerAnyCurve? (h : ofDerAnyCurve? bytes = some key) :
    ofDer key.curve bytes = .ok key := by
  obtain ⟨curve, -, hcurve⟩ := List.exists_of_findSome?_eq_some h
  have hkey := toOption_ofDer_eq_some_iff.1 hcurve
  rw [curve_of_ofDer hkey]
  exact hkey

theorem exists_ofDerAnyCurve? (h : ofDer curve bytes = .ok key) :
    ∃ key', ofDerAnyCurve? bytes = some key' := by
  have hmem : curve ∈ Curve.all := by
    cases curve <;> decide
  have hkey := toOption_ofDer_eq_some_iff.2 h
  exact Option.isSome_iff_exists.1
    (List.findSome?_isSome_iff.2 ⟨curve, hmem, Option.isSome_iff_exists.2 ⟨key, hkey⟩⟩)

end Ec.Key

namespace PrivateKey

variable {bytes : Bytes}

/-! ## Documents with a wrapping -/

theorem ofDer_wrapping {algorithm : Pkcs8.AlgorithmIdentifier}
    (hoid : Oid.minLength ≤ algorithm.oid.encoding.length)
    (h : (Pkcs8.wrapping algorithm bytes).length ≤ maxLength) :
    Pkcs8.PrivateKeyInfo.ofDer (Pkcs8.wrapping algorithm bytes) = .ok ⟨algorithm, bytes, none⟩ :=
  Pkcs8.PrivateKeyInfo.ofDer_encode h hoid

theorem ofPkcs1_of_rsa {key : Rsa.Key} (h : Rsa.Key.ofPkcs1 bytes = .ok key) :
    ofPkcs1 bytes = .ok (rsa key) := by
  rw [ofPkcs1, h]
  rfl

/-- The PKCS#8 document of an RSA key gives what the key gives by itself. -/
theorem ofPkcs8_wrapping_rsa (h : (Pkcs8.wrapping Pkcs8.rsaAlgorithm bytes).length ≤ maxLength) :
    ofPkcs8 (Pkcs8.wrapping Pkcs8.rsaAlgorithm bytes) = ofPkcs1 bytes := by
  have hinfo : Rsa.Key.ofInfo ⟨Pkcs8.rsaAlgorithm, bytes, none⟩ = Rsa.Key.ofPkcs1 bytes := by
    simp [Rsa.Key.ofInfo, Pkcs8.rsaAlgorithm]
  rw [ofPkcs8_eq (ofDer_wrapping (by decide) h), ofPkcs1, hinfo]
  exact if_pos rfl

theorem ofPkcs8_wrapping_ec {curve : Ec.Curve}
    (h : (Pkcs8.wrapping (Pkcs8.ecAlgorithm curve) bytes).length ≤ maxLength) :
    ofPkcs8 (Pkcs8.wrapping (Pkcs8.ecAlgorithm curve) bytes) =
      (ec <$> (Ec.Key.ofDer curve bytes).mapError KeyError.der).mapError .ofKeyError := by
  have hoid : Oid.minLength ≤ (Pkcs8.ecAlgorithm curve).oid.encoding.length :=
    (by decide : Oid.minLength ≤ Pkcs8.ecPublicKey.encoding.length)
  have hrsa : (Pkcs8.ecAlgorithm curve).oid ≠ Pkcs8.rsaEncryption :=
    (by decide : Pkcs8.ecPublicKey ≠ Pkcs8.rsaEncryption)
  rw [ofPkcs8_eq (ofDer_wrapping hoid h)]
  simp only [hrsa, if_false, Ec.curveOid_ecAlgorithm, Ec.Curve.ofOid?_oid]
  exact if_pos rfl

theorem ofPkcs8_wrapping_ec_eq_ok_iff {curve : Ec.Curve}
    (h : (Pkcs8.wrapping (Pkcs8.ecAlgorithm curve) bytes).length ≤ maxLength) {key : PrivateKey} :
    ofPkcs8 (Pkcs8.wrapping (Pkcs8.ecAlgorithm curve) bytes) = .ok key ↔
      ∃ key', Ec.Key.ofDer curve bytes = .ok key' ∧ ec key' = key := by
  rw [ofPkcs8_wrapping_ec h]
  simp only [Except.mapError_eq_ok_iff, Except.map_eq_ok_iff]

theorem ofSec1_eq_ok_iff {key : PrivateKey} :
    ofSec1 bytes = .ok key ↔ ∃ key', Ec.Key.ofDerAnyCurve? bytes = some key' ∧ ec key' = key := by
  unfold ofSec1
  split
  · rename_i key' hkey
    simp [hkey, Except.pure_eq_ok_iff]
  · rename_i hnone
    simp only [hnone]
    exact iff_of_false Except.throw_ne_ok nofun

/-- The PKCS#8 document that names the curve of a key gives the key that is found by trying the
curves. -/
theorem ofPkcs8_wrapping_of_ofSec1 {curve : Ec.Curve}
    (h : (Pkcs8.wrapping (Pkcs8.ecAlgorithm curve) bytes).length ≤ maxLength) {key : PrivateKey}
    (hkey : ofSec1 bytes = .ok key) (hcurve : key.algorithm = .ecdsa curve) :
    ofPkcs8 (Pkcs8.wrapping (Pkcs8.ecAlgorithm curve) bytes) = .ok key := by
  obtain ⟨key, hread, rfl⟩ := ofSec1_eq_ok_iff.1 hkey
  cases hcurve
  exact (ofPkcs8_wrapping_ec_eq_ok_iff h).2 ⟨key, Ec.Key.ofDer_of_ofDerAnyCurve? hread, rfl⟩

theorem exists_ofSec1_of_ofPkcs8_wrapping {curve : Ec.Curve}
    (h : (Pkcs8.wrapping (Pkcs8.ecAlgorithm curve) bytes).length ≤ maxLength) {key : PrivateKey}
    (hkey : ofPkcs8 (Pkcs8.wrapping (Pkcs8.ecAlgorithm curve) bytes) = .ok key) :
    ∃ key', ofSec1 bytes = .ok key' := by
  obtain ⟨key, hread, rfl⟩ := (ofPkcs8_wrapping_ec_eq_ok_iff h).1 hkey
  obtain ⟨key', hkey'⟩ := Ec.Key.exists_ofDerAnyCurve? hread
  exact ⟨ec key', ofSec1_eq_ok_iff.2 ⟨key', hkey', rfl⟩⟩

/-! ## Texts -/

variable {text : String}

theorem ofPem_of_privateKey (h : Pem.privateKeyBlock text = .ok ⟨Label.privateKey, bytes⟩) :
    ofPem text = ofPkcs8 bytes := by
  rw [ofPem, h, Except.bind_ok]
  exact if_pos rfl

theorem ofPem_of_rsaPrivateKey (h : Pem.privateKeyBlock text = .ok ⟨Label.rsaPrivateKey, bytes⟩) :
    ofPem text = ofPkcs1 bytes := by
  have hlabel : Label.rsaPrivateKey ≠ Label.privateKey := by decide
  rw [ofPem, h, Except.bind_ok, if_neg hlabel]
  exact if_pos rfl

theorem ofPem_of_ecPrivateKey (h : Pem.privateKeyBlock text = .ok ⟨Label.ecPrivateKey, bytes⟩) :
    ofPem text = ofSec1 bytes := by
  have hlabel : Label.ecPrivateKey ≠ Label.privateKey := by decide
  have hrsa : Label.ecPrivateKey ≠ Label.rsaPrivateKey := by decide
  rw [ofPem, h, Except.bind_ok, if_neg hlabel, if_neg hrsa]
  exact if_pos rfl

/-- A key comes from a document in one of the three containers. -/
theorem ofPem_eq_ok_iff {key : PrivateKey} : ofPem text = .ok key ↔ ∃ bytes,
    (Pem.privateKeyBlock text = .ok ⟨Label.privateKey, bytes⟩ ∧ ofPkcs8 bytes = .ok key) ∨
    (Pem.privateKeyBlock text = .ok ⟨Label.rsaPrivateKey, bytes⟩ ∧ ofPkcs1 bytes = .ok key) ∨
    (Pem.privateKeyBlock text = .ok ⟨Label.ecPrivateKey, bytes⟩ ∧ ofSec1 bytes = .ok key) := by
  constructor
  · intro h
    obtain ⟨⟨label, bytes⟩, hblock, h⟩ := Except.bind_eq_ok_iff.1 h
    refine ⟨bytes, ?_⟩
    rw [hblock]
    split at h
    · rename_i hlabel
      obtain rfl : label = Label.privateKey := hlabel
      exact .inl ⟨rfl, h⟩
    · split at h
      · rename_i hlabel
        obtain rfl : label = Label.rsaPrivateKey := hlabel
        exact .inr (.inl ⟨rfl, h⟩)
      · split at h
        · rename_i hlabel
          obtain rfl : label = Label.ecPrivateKey := hlabel
          exact .inr (.inr ⟨rfl, h⟩)
        · split at h
          · cases h
          · cases h
  · intro h
    obtain ⟨bytes, ⟨hblock, hkey⟩ | ⟨hblock, hkey⟩ | ⟨hblock, hkey⟩⟩ := h
    · rw [ofPem_of_privateKey hblock, hkey]
    · rw [ofPem_of_rsaPrivateKey hblock, hkey]
    · rw [ofPem_of_ecPrivateKey hblock, hkey]

theorem encryptPem_congr {text' : String} (h : ofPem text' = ofPem text) :
    encryptPem text' = encryptPem text := by
  unfold encryptPem
  rw [h]

/-- The container of a private key does not matter.  A text with an RSA key and a text with its
PKCS#8 document give the same result.  A text with a key on a curve gives the key that a text with
the PKCS#8 document for this curve gives, and it gives one if any such document does.  Texts that
give the same result have the same encrypted texts. -/
theorem ofPem_container (bytes : Bytes) (text wrapped : String) :
    (Pem.privateKeyBlock text = .ok ⟨Label.rsaPrivateKey, bytes⟩ →
      Pem.privateKeyBlock wrapped =
        .ok ⟨Label.privateKey, Pkcs8.wrapping Pkcs8.rsaAlgorithm bytes⟩ →
      (Pkcs8.wrapping Pkcs8.rsaAlgorithm bytes).length ≤ maxLength →
        ofPem wrapped = ofPem text ∧ encryptPem wrapped = encryptPem text) ∧
    (∀ curve, Pem.privateKeyBlock text = .ok ⟨Label.ecPrivateKey, bytes⟩ →
      Pem.privateKeyBlock wrapped =
        .ok ⟨Label.privateKey, Pkcs8.wrapping (Pkcs8.ecAlgorithm curve) bytes⟩ →
      (Pkcs8.wrapping (Pkcs8.ecAlgorithm curve) bytes).length ≤ maxLength →
        (∀ key, ofPem text = .ok key → key.algorithm = .ecdsa curve →
          ofPem wrapped = .ok key ∧ encryptPem wrapped = encryptPem text) ∧
        ∀ key, ofPem wrapped = .ok key → ∃ key', ofPem text = .ok key') := by
  refine ⟨fun hblock hwrapped hlength => ?_, fun curve hblock hwrapped hlength => ?_⟩
  · have hsame : ofPem wrapped = ofPem text := by
      rw [ofPem_of_privateKey hwrapped, ofPem_of_rsaPrivateKey hblock, ofPkcs8_wrapping_rsa hlength]
    exact ⟨hsame, encryptPem_congr hsame⟩
  · refine ⟨fun key hkey hcurve => ?_, fun key hkey => ?_⟩
    · have hread := hkey
      rw [ofPem_of_ecPrivateKey hblock] at hread
      have hwrappedKey : ofPem wrapped = .ok key := by
        rw [ofPem_of_privateKey hwrapped]
        exact ofPkcs8_wrapping_of_ofSec1 hlength hread hcurve
      exact ⟨hwrappedKey, encryptPem_congr (hwrappedKey.trans hkey.symm)⟩
    · rw [ofPem_of_privateKey hwrapped] at hkey
      rw [ofPem_of_ecPrivateKey hblock]
      exact exists_ofSec1_of_ofPkcs8_wrapping hlength hkey

/-! ### An RSA key and a key on a curve -/

/-- The RSA key of the factors 3 and 5. -/
def rsaDocument15 : Rsa.Document where
  modulus := 15
  publicExponent := 3
  privateExponent := 3
  prime₁ := 3
  prime₂ := 5
  exponent₁ := 1
  exponent₂ := 3
  coefficient := 2
  multiPrime := false

/-- The key of this document. -/
def rsaKey15 : Rsa.Key := ⟨15, 3, 3, 3, 5, by decide⟩

theorem ofPkcs1_rsaKey15 : Rsa.Key.ofPkcs1 rsaDocument15.encode = .ok rsaKey15 :=
  Rsa.Key.ofPkcs1_of_ofDocument? rfl (Rsa.Key.ofDocument?_of_valid rfl rsaKey15.valid) (by decide)

/-- The scalar of `shortEcKey` fits the curve of 256 bits. -/
theorem ofSec1_shortEcKey : ∃ key : Ec.Key, key.curve = .p256 ∧
    ofSec1 shortEcKey = .ok (ec key) := by
  have hdocument : shortEcKey = (Ec.Document.mk (List.replicate 32 1) none none).encode := rfl
  have hread : Ec.Document.ofDer shortEcKey = .ok ⟨List.replicate 32 1, none, none⟩ := by
    rw [hdocument]
    exact Ec.Document.ofDer_encode (by decide) nofun
  obtain ⟨key, hscalar⟩ : ∃ key, Ec.Key.ofScalarBytes? .p256 (List.replicate 32 1) = some key :=
    Option.isSome_iff_exists.1 (by decide)
  have hkey : Ec.Key.ofDer .p256 shortEcKey = .ok key := by
    rw [Ec.Key.ofDer, hread, Except.bind_ok, Ec.Key.ofDocument, hscalar]
    rfl
  have hfirst : Ec.Key.ofDerAnyCurve? shortEcKey = some key := by
    simp [Ec.Key.ofDerAnyCurve?, Ec.Curve.all, Ec.Key.toOption_ofDer_eq_some_iff.2 hkey]
  exact ⟨key, Ec.Key.curve_of_ofDer hkey, ofSec1_eq_ok_iff.2 ⟨key, hfirst, rfl⟩⟩

/-- Both keys are the same ones in PKCS#8 documents. -/
theorem ofPem_container_small :
    (∃ key, ofPem (Pem.Block.mk Label.rsaPrivateKey rsaDocument15.encode).toText = .ok key ∧
      ofPem (Pem.Block.mk Label.privateKey
        (Pkcs8.wrapping Pkcs8.rsaAlgorithm rsaDocument15.encode)).toText = .ok key) ∧
    ∃ key, ofPem (Pem.Block.mk Label.ecPrivateKey shortEcKey).toText = .ok key ∧
      key.algorithm = .ecdsa .p256 ∧
      ofPem (Pem.Block.mk Label.privateKey
        (Pkcs8.wrapping (Pkcs8.ecAlgorithm .p256) shortEcKey)).toText = .ok key := by
  have hwrapped := Pem.privateKeyBlock_toText_of_notMem Label.privateKey (by decide) (by decide)
  have hrsa := Pem.privateKeyBlock_toText_of_notMem Label.rsaPrivateKey (by decide) (by decide)
  have hec := Pem.privateKeyBlock_toText_of_notMem Label.ecPrivateKey (by decide) (by decide)
  have hrsaKey := ofPkcs1_of_rsa ofPkcs1_rsaKey15
  obtain ⟨ecKey, hcurve, hecKey⟩ := ofSec1_shortEcKey
  rw [← ofPem_of_rsaPrivateKey (hrsa _)] at hrsaKey
  rw [← ofPem_of_ecPrivateKey (hec _)] at hecKey
  refine ⟨⟨_, hrsaKey, ?_⟩, _, hecKey, congrArg _ hcurve, ?_⟩
  · rw [← hrsaKey]
    exact ((ofPem_container _ _ _).1 (hrsa _) (hwrapped _) (by decide)).1
  · exact (((ofPem_container _ _ _).2 .p256 (hec _) (hwrapped _) (by decide)).1 _ hecKey
      (congrArg _ hcurve)).1

end PrivateKey

end SealedKey
