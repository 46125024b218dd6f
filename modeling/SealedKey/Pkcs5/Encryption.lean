import SealedKey.Cipher.Cbc
import SealedKey.Hash.Sha512
import SealedKey.Pkcs5.Scheme

/-!
# Encryption under a passphrase

A scheme derives a key from the passphrase and encrypts with it.  Schemes are read more
freely than they can be used: a derivation may have a cost or a key length
that is refused here.
-/

namespace SealedKey.Pkcs5

/-- Why a scheme cannot be used, or does not fit what it shall decrypt. -/
inductive Error where
  /-- Schemes of the first kind are not supported. -/
  | pbes1
  /-- The parameters of an algorithm are refused. -/
  | invalidParameters (oid : Oid)
  /-- An algorithm is not supported. -/
  | unsupported (oid : Oid)
  /-- The encrypted text has a wrong length, or decrypts to a wrong padding. -/
  | failed
deriving DecidableEq, Repr

/-- The text of an error. -/
def Error.message : Error → String
  | pbes1 => "PKCS#5 encryption/decryption unsupported for PBES1 (won't fix)"
  | invalidParameters oid => s!"PKCS#5 parameters for algorithm {oid} are invalid"
  | unsupported oid => s!"PKCS#5 algorithm {oid} is unsupported"
  | failed => "PKCS#5 encryption failed"

/-- The keyed hash of a function under a passphrase; the oldest function is not supported. -/
def Prf.keyed (prf : Prf) (passphrase : Bytes) : Except Error Kdf.KeyedHash :=
  match prf with
  | sha1 => throw (.unsupported prf.oid)
  | sha224 => return .hmac Hash.sha224 passphrase
  | sha256 => return .hmac Hash.sha256 passphrase
  | sha384 => return .hmac Hash.sha384 passphrase
  | sha512 => return .hmac Hash.sha512 passphrase

/-- The key of `size` bytes that a passphrase gives. -/
def Derivation.key (derivation : Derivation) (passphrase : Bytes) (size : Nat) :
    Except Error Bytes := do
  if derivation.keyLength.any (· ≠ size) then throw (.invalidParameters derivation.oid)
  match derivation with
  | pbkdf2 parameters =>
    let keyed ← parameters.prf.keyed passphrase
    return Kdf.pbkdf2 keyed parameters.salt parameters.iterations size
  | scrypt parameters =>
    if parameters.cost.Usable then
      return Kdf.scrypt passphrase parameters.salt parameters.cost size
    else throw (.invalidParameters derivation.oid)

namespace Pbes2

/-- The key of a scheme. -/
def key (scheme : Pbes2) (passphrase : Bytes) : Except Error Bytes :=
  scheme.derivation.key passphrase scheme.cipher.keySize

/-- Encrypts a text. -/
def encrypt (scheme : Pbes2) (passphrase plain : Bytes) : Except Error Bytes := do
  return Cipher.encrypt (← scheme.key passphrase) scheme.iv plain

/-- Decrypts a text. -/
def decrypt (scheme : Pbes2) (passphrase encrypted : Bytes) : Except Error Bytes := do
  match Cipher.decrypt? (← scheme.key passphrase) scheme.iv encrypted with
  | some plain => return plain
  | none => throw .failed

end Pbes2

/-- Decrypts a text with a scheme of either kind. -/
def Scheme.decrypt (scheme : Scheme) (passphrase encrypted : Bytes) : Except Error Bytes :=
  match scheme with
  | pbes1 _ => throw .pbes1
  | pbes2 scheme => scheme.decrypt passphrase encrypted

end SealedKey.Pkcs5
