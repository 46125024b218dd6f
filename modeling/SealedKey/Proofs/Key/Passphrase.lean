import Mathlib.Data.Finset.Card
import SealedKey.Proofs.Hash.KeyBlock
import SealedKey.Proofs.Key.Decryption
import SealedKey.Proofs.Key.NormalForm
import SealedKey.Proofs.Pkcs8.Header

/-!
# Passphrases

Nothing in an encrypted text says which passphrase it is for.  A passphrase gives the key of the
cipher, and what this key decrypts is read like any other document.  So another passphrase is not
refused as such.  It fails because what it decrypts is no document of a key, and already the first
six bytes tell so in all but forty cases (`PrivateKey.ofEncryptedPem_of_other`).

There are two reasons why a passphrase may not fail:

* HMAC does not tell it from the first one.  This is so if they are `Passphrase.Alike`, and then
  they open the same texts (`PrivateKey.ofEncryptedPem_eq_of_alike`).
* It decrypts the document of a key by chance.  `PrivateKey.exists_ofEncryptedPem_eq` says that this
  cannot be excluded: there are more passphrases than keys of the cipher.

`PrivateKey.ofEncryptedPem_of_other_fixture` has a passphrase that is refused.  Its keys and its
encrypted block are computed with one iteration and a document of one block.
-/

namespace SealedKey

open Hash (HmacKey)

/-! ## Derived keys -/

namespace Kdf

theorem hmac_eq_of_block_eq {σ : Type} {hash : Hash σ} {a b : Bytes}
    (h : HmacKey.block hash a = HmacKey.block hash b) :
    KeyedHash.hmac hash a = KeyedHash.hmac hash b := by
  rw [KeyedHash.hmac, KeyedHash.hmac, HmacKey.ofBytes_eq_of_block_eq h]

theorem scrypt_eq_of_block_eq {a b : Bytes}
    (h : HmacKey.block Hash.sha256 a = HmacKey.block Hash.sha256 b) (salt : Bytes)
    (cost : ScryptCost) (length : Nat) : scrypt a salt cost length = scrypt b salt cost length := by
  rw [scrypt, scrypt, hmac_eq_of_block_eq h]

theorem length_pbkdf2_le (keyed : KeyedHash) (salt : Bytes) (iterations length : Nat) :
    (pbkdf2 keyed salt iterations length).length ≤ length :=
  List.length_take_le _ _

end Kdf

namespace Passphrase

/-- The block that HMAC makes of a passphrase. -/
def keyBlock (passphrase : Passphrase) : Bytes :=
  HmacKey.block Hash.sha256 passphrase.bytes

/-- Passphrases that are the same up to zero bytes at the end, where a passphrase of more than 64
bytes counts as its digest. -/
def Alike (passphrase other : Passphrase) : Prop :=
  (HmacKey.short Hash.sha256 passphrase.bytes).SameUpToZeros
    (HmacKey.short Hash.sha256 other.bytes)

theorem keyBlock_eq_iff {passphrase other : Passphrase} :
    passphrase.keyBlock = other.keyBlock ↔ passphrase.Alike other :=
  HmacKey.block_eq_block_iff Hash.length_digest_sha256_le

theorem alike_append_zero {bytes : Bytes} (h : bytes.length < Hash.sha256.blockSize) :
    Alike ⟨bytes⟩ ⟨bytes ++ [0]⟩ :=
  keyBlock_eq_iff.1 (HmacKey.block_append_zero h).symm

end Passphrase

namespace Protection

variable {protection : Protection} {salt : Bytes} {passphrase other : Passphrase}

/-- The derived key depends on the key block only. -/
theorem derivedKey_eq_of_alike (h : passphrase.Alike other) :
    protection.derivedKey salt passphrase.bytes = protection.derivedKey salt other.bytes := by
  have hblock := Passphrase.keyBlock_eq_iff.2 h
  cases protection with
  | pbkdf2 iterations => rw [derivedKey, derivedKey, Kdf.hmac_eq_of_block_eq hblock]
  | scrypt => exact Kdf.scrypt_eq_of_block_eq hblock salt scryptCost _

theorem length_derivedKey_le (protection : Protection) (salt passphrase : Bytes) :
    (protection.derivedKey salt passphrase).length ≤ 32 := by
  cases protection with
  | pbkdf2 iterations => exact Kdf.length_pbkdf2_le _ _ _ _
  | scrypt => exact Kdf.length_pbkdf2_le _ _ _ _

/-- What a passphrase decrypts depends on the derived key only. -/
theorem decrypt_scheme_eq_of_derivedKey_eq
    (h : protection.derivedKey salt passphrase.bytes = protection.derivedKey salt other.bytes)
    (iv encrypted : Bytes) : (protection.scheme salt iv).decrypt passphrase.bytes encrypted =
      (protection.scheme salt iv).decrypt other.bytes encrypted := by
  rw [Pkcs5.Pbes2.decrypt, Pkcs5.Pbes2.decrypt, key_scheme, key_scheme, h]

end Protection

/-! ## Passphrases with the same derived key -/

/-- A function to short byte strings is not injective on longer ones. -/
theorem Bytes.exists_ne_eq {f : Bytes → Bytes} {m n : Nat} (hf : ∀ bytes, (f bytes).length ≤ m)
    (h : m + 1 < n) : ∃ a b : Bytes, a.length = n ∧ b.length = n ∧ a ≠ b ∧ f a = f b := by
  -- the one in front keeps strings apart that differ by zeros in front
  have hmaps (i : Nat) (_ : i ∈ Finset.range (256 ^ n)) :
      BigEndian.toNat (1 :: f (BigEndian.padded n i)) ∈ Finset.range (256 ^ (m + 1)) := by
    refine Finset.mem_range.2 (Nat.lt_of_lt_of_le (BigEndian.toNat_lt _) ?_)
    exact Nat.pow_le_pow_right (by omega) (Nat.succ_le_succ (hf _))
  have hcard : (Finset.range (256 ^ (m + 1))).card < (Finset.range (256 ^ n)).card := by
    rw [Finset.card_range, Finset.card_range]
    exact Nat.pow_lt_pow_right (by omega) h
  obtain ⟨i, hi, j, hj, hne, heq⟩ := Finset.exists_ne_map_eq_of_card_lt_of_maps_to hcard hmaps
  refine ⟨BigEndian.padded n i, BigEndian.padded n j, BigEndian.length_padded n i,
    BigEndian.length_padded n j, fun hsame => hne ?_, ?_⟩
  · have hnumber := congrArg BigEndian.toNat hsame
    rwa [BigEndian.toNat_padded (Finset.mem_range.1 hi),
      BigEndian.toNat_padded (Finset.mem_range.1 hj)] at hnumber
  · have hbytes := congrArg BigEndian.ofNat heq
    have hone (bytes : Bytes) : (1 :: bytes).head? ≠ some 0 := by
      rw [List.head?_cons]
      decide
    rw [BigEndian.ofNat_toNat (hone _), BigEndian.ofNat_toNat (hone _)] at hbytes
    exact (List.cons.inj hbytes).2

/-- There are passphrases that are not alike and have the same derived key. -/
theorem Protection.exists_derivedKey_eq (protection : Protection) (salt : Bytes) :
    ∃ passphrase other : Passphrase, ¬ passphrase.Alike other ∧
      protection.derivedKey salt passphrase.bytes = protection.derivedKey salt other.bytes := by
  have hsize : 32 + 1 < Hash.sha256.blockSize := by decide
  obtain ⟨a, b, ha, hb, hne, heq⟩ :=
    Bytes.exists_ne_eq (protection.length_derivedKey_le salt) hsize
  refine ⟨⟨a⟩, ⟨b⟩, ?_, heq⟩
  rw [← Passphrase.keyBlock_eq_iff, Passphrase.keyBlock, Passphrase.keyBlock,
    HmacKey.block_of_length_eq ha, HmacKey.block_of_length_eq hb]
  exact hne

/-! ## Other passphrases -/

theorem Pkcs5.Pbes2.decrypt_eq_ok_iff {scheme : Pbes2} {passphrase encrypted plain : Bytes} :
    scheme.decrypt passphrase encrypted = .ok plain ↔
      ∃ key, scheme.key passphrase = .ok key ∧
        Cipher.decrypt? key scheme.iv encrypted = some plain := by
  rw [decrypt, Except.bind_eq_ok_iff]
  refine exists_congr fun key => and_congr_right fun _ => ?_
  split
  · rename_i plain' hplain
    rw [hplain, Except.pure_eq_ok_iff, Option.some.injEq]
  · rename_i hnone
    rw [hnone]
    exact iff_of_false Except.throw_ne_ok (Option.some_ne_none plain).symm

namespace PrivateKey

open Pkcs8 (EncryptedKeyInfo PrivateKeyInfo)

section

variable {scheme : Pkcs5.Pbes2} {encrypted found : Bytes} {text : String} {passphrase : Passphrase}

/-- A key is returned if it is what the passphrase decrypts. -/
theorem ofEncryptedPem_of_decrypt
    (hinfo : EncryptedKeyInfo.ofPem text = .ok ⟨.pbes2 scheme, encrypted⟩) {key : PrivateKey}
    (hfound : scheme.decrypt passphrase.bytes encrypted = .ok found)
    (hkey : ofPkcs8 found = .ok key) : ofEncryptedPem text passphrase = .ok key := by
  obtain ⟨keyInfo, hread⟩ := exists_ofDer_of_ofPkcs8 hkey
  have hsequence := EncryptedKeyInfo.readSequence_of_ofDer hread
  have hdecrypt : EncryptedKeyInfo.decrypt ⟨.pbes2 scheme, encrypted⟩ passphrase = .ok found :=
    EncryptedKeyInfo.decrypt_eq_ok_iff.2 ⟨hfound, hsequence⟩
  rw [ofEncryptedPem_of_decrypt_eq hinfo hdecrypt, hkey, Except.mapError_ok]

/-- The private key documents that can be decrypted have one of the headers for their size. -/
theorem take_mem_headers_of_decrypt {info : PrivateKeyInfo}
    (hfound : scheme.decrypt passphrase.bytes encrypted = .ok found)
    (hread : PrivateKeyInfo.ofDer found = .ok info) :
    found.take 6 ∈ PrivateKeyInfo.headers encrypted.length := by
  obtain ⟨key, -, hdecrypt⟩ := Pkcs5.Pbes2.decrypt_eq_ok_iff.1 hfound
  obtain ⟨hlt, hle⟩ := Cipher.length_of_decrypt? hdecrypt
  exact PrivateKeyInfo.take_mem_headers hread hlt hle

/-- A passphrase fails with an error of decryption if what it decrypts has none of the headers, or
is no document of a key. -/
theorem ofEncryptedPem_of_refused
    (hinfo : EncryptedKeyInfo.ofPem text = .ok ⟨.pbes2 scheme, encrypted⟩)
    (hrefused : ∀ found, scheme.decrypt passphrase.bytes encrypted = .ok found →
      found.take 6 ∉ PrivateKeyInfo.headers encrypted.length ∨
        ∃ reason, ofPkcs8 found = .error (.decoding reason)) :
    ∃ reason, ofEncryptedPem text passphrase = .error (.decryption reason) := by
  -- what is read as a private key document has one of the headers, so it must be refused later
  have hdecoding {found : Bytes} {info : PrivateKeyInfo}
      (hdecrypt : EncryptedKeyInfo.decrypt ⟨.pbes2 scheme, encrypted⟩ passphrase = .ok found)
      (hread : PrivateKeyInfo.ofDer found = .ok info) :
      ∃ reason, ofPkcs8 found = .error (.decoding reason) := by
    obtain ⟨hfound, -⟩ := EncryptedKeyInfo.decrypt_eq_ok_iff.1 hdecrypt
    exact (hrefused found hfound).resolve_left
      fun hheader => hheader (take_mem_headers_of_decrypt hfound hread)
  rcases hresult : ofEncryptedPem text passphrase with error | key
  · obtain ⟨reason, rfl⟩ | ⟨cause, ⟨found, keyInfo, hdecrypt, hread, hcurve⟩, -⟩ :=
      ofEncryptedPem_eq_error hinfo hresult
    · exact ⟨reason, rfl⟩
    · obtain ⟨reason, hreason⟩ := hdecoding hdecrypt hread
      rw [ofPkcs8_of_lacksCurve hread hcurve] at hreason
      nomatch hreason
  · obtain ⟨info, found, hinfo', hdecrypt, hkey⟩ := ofPkcs8_of_ofEncryptedPem hresult
    obtain rfl := Except.ok.inj (hinfo.symm.trans hinfo')
    obtain ⟨keyInfo, hread⟩ := exists_ofDer_of_ofPkcs8 hkey
    obtain ⟨reason, hreason⟩ := hdecoding hdecrypt hread
    rw [hkey] at hreason
    nomatch hreason

end

variable {protection : Protection} {passphrase other : Passphrase} {supply rest : Bytes}
  {text : String}

/-- A text is decrypted in the same way with passphrases that have the same derived key. -/
theorem ofEncryptedPem_eq_of_derivedKey_eq {salt iv encrypted : Bytes}
    (hinfo : EncryptedKeyInfo.ofPem text = .ok ⟨.pbes2 (protection.scheme salt iv), encrypted⟩)
    (h : protection.derivedKey salt passphrase.bytes = protection.derivedKey salt other.bytes) :
    ofEncryptedPem text passphrase = ofEncryptedPem text other := by
  have hdecrypt := Protection.decrypt_scheme_eq_of_derivedKey_eq h iv encrypted
  simp only [ofEncryptedPem, hinfo, Except.bind_ok, EncryptedKeyInfo.decrypt,
    Pkcs5.Scheme.decrypt, hdecrypt]

/-- An encrypted text is decrypted in the same way with passphrases that are alike. -/
theorem ofEncryptedPem_eq_of_alike {key : PrivateKey}
    (h : key.encrypt passphrase protection supply = some (.ok text, rest))
    (halike : passphrase.Alike other) :
    ofEncryptedPem text passphrase = ofEncryptedPem text other := by
  obtain ⟨_, _, _, _, -, -, -, -, -, hinfo⟩ := exists_scheme_of_encrypt h
  exact ofEncryptedPem_eq_of_derivedKey_eq hinfo (Protection.derivedKey_eq_of_alike halike)

/-- Whatever is drawn, there are two passphrases that are not alike and open the same texts. -/
theorem exists_ofEncryptedPem_eq (protection : Protection) (supply : Bytes) :
    ∃ passphrase other : Passphrase, ¬ passphrase.Alike other ∧
      ∀ (key : PrivateKey) text rest,
        key.encrypt passphrase protection supply = some (.ok text, rest) →
          ofEncryptedPem text passphrase = ofEncryptedPem text other := by
  obtain ⟨passphrase, other, halike, hkey⟩ := protection.exists_derivedKey_eq (supply.take saltSize)
  refine ⟨passphrase, other, halike, fun key text rest h => ?_⟩
  obtain ⟨salt, _, _, _, rfl, hsalt, -, -, -, hinfo⟩ := exists_scheme_of_encrypt h
  rw [List.take_left' hsalt] at hkey
  exact ofEncryptedPem_eq_of_derivedKey_eq hinfo hkey

/-! ### A short document and a wrong passphrase -/

/-- An X25519 key without bytes.  Its document fits into one block of the cipher. -/
def emptyX25519Info : PrivateKeyInfo := ⟨⟨x25519, none⟩, [], none⟩

/-- Another passphrase than that of the fixtures. -/
def wrongPassphrase : Passphrase := .ofString "wrong_password"

/-- Zeros for a salt or an initialization vector. -/
def zeroBlock : Bytes := List.replicate 16 0

/-- The key of the cipher that PBKDF2 derives from the passphrase of the fixtures. -/
def fixtureKey : Bytes := [
  0x6F, 0xC5, 0x88, 0x34, 0x69, 0x4E, 0xDF, 0xE3, 0x7F, 0x0D, 0x60, 0xE3, 0x5D, 0x49, 0xEB, 0x8C,
  0x09, 0x31, 0xF8, 0x8B, 0x8F, 0xE7, 0x92, 0xBA, 0x2D, 0x92, 0xE7, 0x8E, 0x2A, 0x2B, 0xC3, 0x38]

/-- The key of the cipher that it derives from the other passphrase. -/
def wrongKey : Bytes := [
  0x1A, 0x3E, 0x69, 0xD0, 0x3F, 0x6E, 0x48, 0xDD, 0xA0, 0x1A, 0x86, 0x63, 0xBC, 0xBF, 0x0D, 0x31,
  0x63, 0xCE, 0x79, 0xFC, 0x63, 0xD2, 0x98, 0x5D, 0xAE, 0xBD, 0x05, 0xE2, 0xEB, 0x40, 0x81, 0x2F]

/-- The document of the X25519 key, encrypted. -/
def encryptedX25519 : Bytes := [
  0x9C, 0xF3, 0xCF, 0xCD, 0x6A, 0xCD, 0x77, 0x3E, 0xEE, 0x1C, 0x14, 0xA9, 0x1D, 0x64, 0x6A, 0x33]

theorem derivedKey_fixture :
    (Protection.pbkdf2 1).derivedKey zeroBlock Passphrase.fixture.bytes = fixtureKey := by
  decide +kernel

theorem derivedKey_wrongPassphrase :
    (Protection.pbkdf2 1).derivedKey zeroBlock wrongPassphrase.bytes = wrongKey := by
  decide +kernel

theorem encrypt_fixtureKey :
    Cipher.encrypt fixtureKey zeroBlock emptyX25519Info.encode = encryptedX25519 := by
  decide +kernel

/-- The padding is wrong. -/
theorem decrypt?_wrongKey : Cipher.decrypt? wrongKey zeroBlock encryptedX25519 = none := by
  decide +kernel

theorem encrypt_scheme_fixture :
    ((Protection.pbkdf2 1).scheme zeroBlock zeroBlock).encrypt Passphrase.fixture.bytes
      emptyX25519Info.encode = .ok encryptedX25519 := by
  rw [Pkcs5.Pbes2.encrypt, Protection.key_scheme, derivedKey_fixture, Except.bind_ok,
    ← encrypt_fixtureKey]
  rfl

theorem decrypt_scheme_wrongPassphrase (found : Bytes) :
    ((Protection.pbkdf2 1).scheme zeroBlock zeroBlock).decrypt wrongPassphrase.bytes
      encryptedX25519 ≠ .ok found := by
  intro h
  obtain ⟨key, hkey, hfound⟩ := Pkcs5.Pbes2.decrypt_eq_ok_iff.1 h
  rw [Protection.key_scheme, derivedKey_wrongPassphrase] at hkey
  obtain rfl := Except.ok.inj hkey
  exact absurd (decrypt?_wrongKey.symm.trans hfound) (Option.some_ne_none found).symm

theorem isUntyped_emptyX25519Info : emptyX25519Info.IsUntyped :=
  ⟨isUntyped_x25519Info.ne_rsa, isUntyped_x25519Info.ne_ed25519, isUntyped_x25519Info.unknown_curve⟩

/-! ### What another passphrase gives -/

/-- Another passphrase opens an encrypted text like the first one if they are alike.  In any case,
it fails unless what it decrypts begins with one of forty headers of six bytes and is the document
of a key. -/
theorem ofEncryptedPem_of_other {key : PrivateKey} (hkey : key.Obtained)
    (h : key.encrypt passphrase protection supply = some (.ok text, rest)) :
    ∃ salt iv document encrypted, supply = salt ++ (iv ++ rest) ∧ salt.length = saltSize ∧
      iv.length = Pkcs5.AesCbc.ivSize ∧ key.essentialDocument = .ok document ∧
      (protection.scheme salt iv).encrypt passphrase.bytes document = .ok encrypted ∧
      ∃ headers : List Bytes, headers.length = 40 ∧ (∀ header ∈ headers, header.length = 6) ∧
        ∀ other : Passphrase,
          (passphrase.Alike other →
            ∃ key', ofEncryptedPem text other = .ok key' ∧ key.Matches key') ∧
          (∀ found key', (protection.scheme salt iv).decrypt other.bytes encrypted = .ok found →
            ofPkcs8 found = .ok key' → ofEncryptedPem text other = .ok key') ∧
          ((∀ found, (protection.scheme salt iv).decrypt other.bytes encrypted = .ok found →
              found.take 6 ∉ headers ∨ ∃ reason, ofPkcs8 found = .error (.decoding reason)) →
            ∃ reason, ofEncryptedPem text other = .error (.decryption reason)) := by
  obtain ⟨salt, iv, document, encrypted, hsupply, hsalt, hiv, hdocument, hencrypted, hinfo⟩ :=
    exists_scheme_of_encrypt h
  refine ⟨salt, iv, document, encrypted, hsupply, hsalt, hiv, hdocument, hencrypted,
    PrivateKeyInfo.headers encrypted.length, PrivateKeyInfo.length_headers _,
    fun header => PrivateKeyInfo.length_of_mem_headers, fun other => ⟨fun halike => ?_,
      fun found key' => ofEncryptedPem_of_decrypt hinfo, ofEncryptedPem_of_refused hinfo⟩⟩
  obtain ⟨key', _, hread, hmatches, -⟩ := ofEncryptedPem_matches hkey.isUntyped h
  exact ⟨key', (ofEncryptedPem_eq_of_alike h halike).symm.trans hread, hmatches⟩

/-- The key of a seed of zeros is read again with a zero byte behind the passphrase.  The X25519 key
is not read with the other passphrase. -/
theorem ofEncryptedPem_of_other_fixture :
    (∃ text rest key',
      zeroSeed.encrypt .fixture .standard (List.replicate 32 0) = some (.ok text, rest) ∧
        ofEncryptedPem text ⟨Passphrase.fixture.bytes ++ [0]⟩ = .ok key' ∧
        zeroSeed.Matches key') ∧
    ∃ key text rest reason, ofPkcs8 emptyX25519Info.encode = .ok key ∧
      key.encrypt .fixture (.pbkdf2 1) (zeroBlock ++ zeroBlock) = some (.ok text, rest) ∧
      ofEncryptedPem text wrongPassphrase = .error (.decryption reason) := by
  constructor
  · have hadmitted : Protection.standard.Admitted := by decide
    have hshort : Passphrase.fixture.bytes.length < Hash.sha256.blockSize := by decide
    obtain ⟨text, rest, h⟩ := exists_encrypt_zeroSeed .fixture hadmitted
    obtain ⟨_, _, _, _, -, -, -, -, -, _, -, -, hother⟩ :=
      ofEncryptedPem_of_other (.generateEd25519 generateEd25519_zeroSeed) h
    obtain ⟨key', hread, hmatches⟩ :=
      (hother ⟨Passphrase.fixture.bytes ++ [0]⟩).1 (Passphrase.alike_append_zero hshort)
    exact ⟨text, rest, key', h, hread, hmatches⟩
  · have hread : PrivateKeyInfo.ofDer emptyX25519Info.encode = .ok emptyX25519Info :=
      PrivateKeyInfo.ofDer_encode (by decide) (by decide)
    have hkey := ofPkcs8_of_isUntyped hread isUntyped_emptyX25519Info
    have hdocument := essentialDocument_untyped ⟨_, emptyX25519Info, hread⟩
    have hshort : emptyX25519Info.encode.length + 216 ≤ Der.maxLength := by decide
    have hsupply : 32 ≤ (zeroBlock ++ zeroBlock).length := by decide
    have hadmitted : (Protection.pbkdf2 1).Admitted := by decide
    obtain ⟨text, rest, h⟩ := exists_encrypt _ hdocument hshort .fixture hadmitted hsupply
    obtain ⟨salt, iv, document, encrypted, hdrawn, hsalt, hiv, hdocument', hencrypted, _, -, -,
      hother⟩ := ofEncryptedPem_of_other (.ofPkcs8 hkey) h
    -- what was drawn are the zeros, and the document is that of the key
    obtain ⟨rfl, hrest⟩ := List.append_inj hdrawn hsalt.symm
    obtain ⟨rfl, -⟩ := List.append_inj ((List.append_nil zeroBlock).trans hrest) hiv.symm
    obtain rfl := Except.ok.inj (hdocument.symm.trans hdocument')
    obtain rfl := Except.ok.inj (encrypt_scheme_fixture.symm.trans hencrypted)
    obtain ⟨reason, hreason⟩ := (hother wrongPassphrase).2.2
      fun found hfound => absurd hfound (decrypt_scheme_wrongPassphrase found)
    exact ⟨_, text, rest, reason, hkey, h, hreason⟩

/-- The passphrase of the fixtures with a zero byte behind it is another passphrase, but does not
fail. -/
theorem ofEncryptedPem_fixture_zero : ∃ text rest,
    zeroSeed.encrypt .fixture .standard (List.replicate 32 0) = some (.ok text, rest) ∧
      Passphrase.fixture.bytes ++ [0] ≠ Passphrase.fixture.bytes ∧
      ofEncryptedPem text ⟨Passphrase.fixture.bytes ++ [0]⟩ = .ok zeroSeed := by
  have hadmitted : Protection.standard.Admitted := by decide
  have hshort : Passphrase.fixture.bytes.length < Hash.sha256.blockSize := by decide
  obtain ⟨text, rest, h⟩ := exists_encrypt_zeroSeed .fixture hadmitted
  refine ⟨text, rest, h, fun hsame => ?_, ?_⟩
  · have hlength := congrArg List.length hsame
    rw [List.length_append, List.length_singleton] at hlength
    omega
  · have htyped : zeroSeed.IsTyped := trivial
    have hsame := ofEncryptedPem_eq_of_alike h (Passphrase.alike_append_zero hshort)
    exact hsame.symm.trans (ofEncryptedPem_of_encrypt htyped h).1

end PrivateKey

end SealedKey
