import SealedKey.Proofs.Key.Encryption

/-!
# Public keys of keys that were read

A key that was read from a text has a public key document, unless it is an untyped key whose
document holds no public key.  Only for RSA keys this depends on where the key comes from: the
modulus of a key that was read is short, since its document holds the two primes as well.
-/

namespace SealedKey

open Der (maxLength)

/-! ## RSA keys -/

namespace Rsa.Key

/-- The modulus takes at most about half of the greatest length. -/
def ShortModulus (key : Key) : Prop :=
  2 * (Der.integerBytes key.modulus).length ≤ maxLength

theorem length_ofNat_mul_le (m n : Nat) : (BigEndian.ofNat (m * n)).length ≤
    (BigEndian.ofNat m).length + (BigEndian.ofNat n).length := by
  rw [BigEndian.length_ofNat_le_iff, Nat.pow_add]
  exact Nat.mul_lt_mul'' (BigEndian.length_ofNat_le_iff.1 (Nat.le_refl _))
    (BigEndian.length_ofNat_le_iff.1 (Nat.le_refl _))

/-- The numbers of a key are those of its document, which has two primes. -/
theorem ofDer_of_ofPkcs1 {bytes : Bytes} {key : Key} (h : ofPkcs1 bytes = .ok key) :
    ∃ document, Document.ofDer bytes = .ok document ∧ document.multiPrime = false ∧
      document.modulus = key.modulus ∧ document.prime₁ = key.prime₁ ∧
        document.prime₂ = key.prime₂ := by
  obtain ⟨document, hread, h⟩ := Except.bind_eq_ok_iff.1 h
  refine ⟨document, Except.mapError_eq_ok_iff.1 hread, ?_⟩
  split at h
  · rename_i key' hkey
    cases h
    unfold ofDocument? at hkey
    split at hkey
    · nomatch hkey
    · rename_i htwo
      unfold ofNumbers? at hkey
      split at hkey
      · cases hkey
        exact ⟨Bool.not_eq_true _ ▸ htwo, rfl, rfl, rfl⟩
      · nomatch hkey
  · nomatch h

theorem shortModulus_of_ofPkcs1 {bytes : Bytes} {key : Key} (h : ofPkcs1 bytes = .ok key) :
    key.ShortModulus := by
  obtain ⟨document, hread, htwo, hmodulus, hprime₁, hprime₂⟩ := ofDer_of_ofPkcs1 h
  obtain ⟨hlength, rfl⟩ := (Document.ofDer_eq_ok_iff htwo).1 hread
  rw [Document.encode_eq htwo] at hlength
  have hcontents := Nat.le_trans
    (Nat.le_of_lt (Der.length_lt_length_element .sequence document.contents)) hlength
  have hinteger (n : Nat) : (Der.integerBytes n).length < (Der.integer n).length :=
    Der.length_lt_length_element .integer (Der.integerBytes n)
  have := hinteger document.modulus
  have := hinteger document.prime₁
  have := hinteger document.prime₂
  -- the primes are together at least as long as the modulus
  have hproduct := length_ofNat_mul_le document.prime₁ document.prime₂
  rw [hprime₁, hprime₂, key.valid.mul_eq_modulus, ← hprime₁, ← hprime₂, ← hmodulus] at hproduct
  have := Der.length_integerBytes_le document.modulus
  have := Der.length_ofNat_le_length_integerBytes document.prime₁
  have := Der.length_ofNat_le_length_integerBytes document.prime₂
  rw [ShortModulus, ← hmodulus]
  simp only [Document.contents, List.length_append] at hcontents
  omega

/-- The public key of a key with a short modulus is far from the greatest length. -/
theorem length_encode_publicKey_le {key : Key} (h : key.ShortModulus) :
    key.publicKey.encode.length + 100 ≤ maxLength := by
  have hmax : maxLength = 268435455 := rfl
  have hmodulus : (Der.integer key.modulus).length ≤ (Der.integerBytes key.modulus).length + 6 :=
    Der.length_element_le _ (Nat.le_refl _) (by rw [ShortModulus] at h; omega)
  have hlt : key.publicExponent < 256 ^ 5 :=
    Nat.lt_of_le_of_lt key.valid.publicExponent_le (by decide)
  have hexponent : (Der.integer key.publicExponent).length ≤ 5 + 7 :=
    Der.length_integer_le hlt (by decide)
  have hencode : key.publicKey.encode.length ≤
      (Der.integerBytes key.modulus).length + 18 + 6 := by
    refine Der.length_element_le _ ?_ (by rw [ShortModulus] at h; omega)
    simp only [publicKey, List.flatten_cons, List.flatten_nil, List.append_nil, List.length_append]
    omega
  rw [ShortModulus] at h
  omega

end Rsa.Key

/-! ## Private keys -/

namespace PrivateKey

/-- A key that is no RSA key with a long modulus. -/
def ShortModulus : PrivateKey → Prop
  | rsa key => key.ShortModulus
  | _ => True

/-- What is known of a key that was read from a text. -/
structure WasRead (key : PrivateKey) : Prop where
  shortModulus : key.ShortModulus
  isUntyped : ∀ key', key = untyped key' → key'.info.IsUntyped

theorem shortModulus_of_ofPkcs8 {document : Bytes} {key : PrivateKey}
    (h : ofPkcs8 document = .ok key) : key.ShortModulus := by
  cases key with
  | rsa key =>
    obtain ⟨info, hread⟩ := exists_ofDer_of_ofPkcs8 h
    obtain ⟨-, _, hinfo, ⟨⟩⟩ | ⟨-, _, _, _, -, -, -, ⟨⟩⟩ | ⟨-, _, -, ⟨⟩⟩ | ⟨-, ⟨⟩⟩ :=
      ofPkcs8_cases hread h
    exact Rsa.Key.shortModulus_of_ofPkcs1 (Rsa.Key.ofInfo_eq_ok_iff.1 hinfo).2
  | _ => trivial

theorem wasRead_of_ofPkcs8 {document : Bytes} {key : PrivateKey}
    (h : ofPkcs8 document = .ok key) : key.WasRead := by
  refine ⟨shortModulus_of_ofPkcs8 h, ?_⟩
  rintro key' rfl
  exact (isUntyped_of_ofPkcs8_eq h).2

theorem wasRead_of_ofPem {text : String} {key : PrivateKey} (h : ofPem text = .ok key) :
    key.WasRead := by
  obtain ⟨block, -, h⟩ := Except.bind_eq_ok_iff.1 h
  split at h
  · exact wasRead_of_ofPkcs8 h
  · split at h
    · obtain ⟨_, hkey, rfl⟩ := Except.map_eq_ok_iff.1 (Except.mapError_eq_ok_iff.1 h)
      exact ⟨Rsa.Key.shortModulus_of_ofPkcs1 hkey, nofun⟩
    · split at h
      · unfold ofSec1 at h
        split at h
        · cases h
          exact ⟨trivial, nofun⟩
        · nomatch h
      · split at h <;> nomatch h

/-- A decrypted key is read from the document that was decrypted. -/
theorem ofPkcs8_of_ofEncryptedPem {text : String} {passphrase : Passphrase} {key : PrivateKey}
    (h : ofEncryptedPem text passphrase = .ok key) : ∃ info document,
      Pkcs8.EncryptedKeyInfo.ofPem text = .ok info ∧ info.decrypt passphrase = .ok document ∧
        ofPkcs8 document = .ok key := by
  obtain ⟨info, hinfo, h⟩ := Except.bind_eq_ok_iff.1 h
  obtain ⟨document, hdocument, h⟩ := Except.bind_eq_ok_iff.1 h
  exact ⟨info, document, hinfo, hdocument, Except.mapError_eq_ok_iff.1 h⟩

theorem wasRead_of_ofEncryptedPem {text : String} {passphrase : Passphrase} {key : PrivateKey}
    (h : ofEncryptedPem text passphrase = .ok key) : key.WasRead := by
  obtain ⟨_, _, -, -, hkey⟩ := ofPkcs8_of_ofEncryptedPem h
  exact wasRead_of_ofPkcs8 hkey

/-! ## Public key documents -/

/-- A key whose public key is known. -/
def HasPublicKey : PrivateKey → Prop
  | untyped key => key.info.publicKey.isSome
  | _ => True

/-- The public key of an untyped key is part of its document, so it fits into a document. -/
theorem length_encode_untyped_le {key : UntypedKey} {bytes : Bytes}
    (h : key.info.publicKey = some bytes) :
    (Pkcs8.PublicKeyInfo.encode ⟨key.info.algorithm, bytes⟩).length ≤ maxLength := by
  refine Nat.le_trans (Der.length_element_mono ?_) key.ofDer_encode_info.1
  have hfield : (Der.bitString bytes).length ≤
      (Pkcs8.PrivateKeyInfo.publicKeyElement bytes).length :=
    Der.length_element_mono (Nat.le_refl _)
  simp only [h, Option.elim_some, List.flatten_cons, List.flatten_nil, List.append_nil,
    List.length_append]
  omega

theorem length_encode_ec_le (key : Ec.Key) :
    (Pkcs8.PublicKeyInfo.encode ⟨Pkcs8.ecAlgorithm key.curve, key.publicKey⟩).length ≤ 176 := by
  have hsize := Ec.Key.size_le key.curve
  have halgorithm : (Pkcs8.ecAlgorithm key.curve).encode.length ≤ 30 := by
    cases key.curve <;> decide
  have hbits : (Der.bitString key.publicKey).length ≤ 134 + 6 := by
    refine Der.length_element_le _ ?_ (by decide)
    rw [List.length_cons, Ec.Key.length_publicKey]
    omega
  refine Der.length_element_le _ (n := 170) ?_ (by decide)
  simp only [List.flatten_cons, List.flatten_nil, List.append_nil, List.length_append]
  omega

theorem length_encode_ed25519_le (key : Ed25519.Key) :
    (Pkcs8.PublicKeyInfo.encode ⟨Pkcs8.ed25519Algorithm, key.publicKey⟩).length ≤ 52 := by
  have halgorithm : Pkcs8.ed25519Algorithm.encode.length = 7 := by decide
  have hbits : (Der.bitString key.publicKey).length ≤ 33 + 6 := by
    refine Der.length_element_le _ ?_ (by decide)
    rw [List.length_cons, Ed25519.Key.publicKey, Ed25519.Point.length_encode]
  refine Der.length_element_le _ (n := 46) ?_ (by decide)
  simp only [List.flatten_cons, List.flatten_nil, List.append_nil, List.length_append]
  omega

theorem length_encode_rsa_le {key : Rsa.Key} (h : key.ShortModulus) :
    (Pkcs8.PublicKeyInfo.encode ⟨Pkcs8.rsaAlgorithm, key.publicKey.encode⟩).length ≤
      maxLength := by
  have hpublic := key.length_encode_publicKey_le h
  have halgorithm : Pkcs8.rsaAlgorithm.encode.length = 15 := by decide
  have hbits : (Der.bitString key.publicKey.encode).length ≤ key.publicKey.encode.length + 1 + 6 :=
    Der.length_element_le _ (Nat.le_refl _) (by omega)
  refine Nat.le_trans (Der.length_element_le _ (n := key.publicKey.encode.length + 22) ?_
    (by omega)) (by omega)
  simp only [List.flatten_cons, List.flatten_nil, List.append_nil, List.length_append]
  omega

theorem publicKeyDocument_eq_ok_iff {key : PrivateKey} {bytes : Bytes} :
    key.publicKeyDocument = .ok bytes ↔ ∃ info, key.publicKeyInfo = .ok info ∧
      info.encode.length ≤ maxLength ∧ bytes = info.encode := by
  rw [publicKeyDocument]
  simp only [Except.bind_eq_ok_iff, Except.mapError_eq_ok_iff, Der.document_eq_ok_iff]

theorem publicKeyDocument_eq_ok {key : PrivateKey} {info : Pkcs8.PublicKeyInfo}
    (hinfo : key.publicKeyInfo = .ok info) (hlength : info.encode.length ≤ maxLength) :
    key.publicKeyDocument = .ok info.encode :=
  publicKeyDocument_eq_ok_iff.2 ⟨info, hinfo, hlength, rfl⟩

theorem exists_publicKeyDocument {key : PrivateKey} (hread : key.WasRead)
    (hpublic : key.HasPublicKey) : ∃ document, key.publicKeyDocument = .ok document := by
  cases key with
  | rsa key =>
    have hinfo : (rsa key).publicKeyInfo = .ok ⟨Pkcs8.rsaAlgorithm, key.publicKey.encode⟩ := rfl
    exact ⟨_, publicKeyDocument_eq_ok hinfo (length_encode_rsa_le hread.shortModulus)⟩
  | ec key =>
    have hinfo : (ec key).publicKeyInfo = .ok ⟨Pkcs8.ecAlgorithm key.curve, key.publicKey⟩ := rfl
    have hlength := Nat.le_trans (length_encode_ec_le key) (by decide : 176 ≤ maxLength)
    exact ⟨_, publicKeyDocument_eq_ok hinfo hlength⟩
  | ed25519 key =>
    have hinfo : (ed25519 key).publicKeyInfo = .ok ⟨Pkcs8.ed25519Algorithm, key.publicKey⟩ := rfl
    have hlength := Nat.le_trans (length_encode_ed25519_le key) (by decide : 52 ≤ maxLength)
    exact ⟨_, publicKeyDocument_eq_ok hinfo hlength⟩
  | untyped key =>
    obtain ⟨bytes, hbytes⟩ := Option.isSome_iff_exists.1 hpublic
    refine ⟨_, publicKeyDocument_eq_ok ?_ (length_encode_untyped_le hbytes)⟩
    simp only [publicKeyInfo, hbytes]
    rfl

theorem publicKeyDocument_eq_error {key : PrivateKey} (hpublic : ¬ key.HasPublicKey) :
    ∃ reason, key.publicKeyDocument = .error (.unsupportedAlgorithm reason) := by
  cases key with
  | untyped key =>
    have hnone : key.info.publicKey = none := Option.not_isSome_iff_eq_none.1 hpublic
    simp only [publicKeyDocument, publicKeyInfo, hnone]
    exact ⟨_, rfl⟩
  | _ => exact absurd trivial hpublic

end PrivateKey

end SealedKey
