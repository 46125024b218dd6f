import SealedKey.Kdf.Scrypt
import SealedKey.Pkcs8.AlgorithmIdentifier

/-!
# Password-based encryption schemes

A scheme of the second kind (PBES2) is a key derivation and a cipher, each with its
parameters.  Those of the first kind (PBES1) are recognized, but nothing more.

Every type stands here with the identifiers and sizes that belong to it and with its DER
form.  Reading is in `SealedKey.Pkcs5.Reader`.
-/

namespace SealedKey.Pkcs5

/-! ## Pseudo-random functions -/

/-- The hash functions whose keyed form a derivation can name. -/
inductive Prf where
  | sha1
  | sha224
  | sha256
  | sha384
  | sha512
deriving DecidableEq, Repr

namespace Prf

/-- All of them. -/
def all : List Prf := [sha1, sha224, sha256, sha384, sha512]

/-- The identifiers 1.2.840.113549.2.7 to 1.2.840.113549.2.11. -/
def oid : Prf → Oid
  | sha1 => ⟨[0x2A, 0x86, 0x48, 0x86, 0xF7, 0x0D, 0x02, 0x07], by decide⟩
  | sha224 => ⟨[0x2A, 0x86, 0x48, 0x86, 0xF7, 0x0D, 0x02, 0x08], by decide⟩
  | sha256 => ⟨[0x2A, 0x86, 0x48, 0x86, 0xF7, 0x0D, 0x02, 0x09], by decide⟩
  | sha384 => ⟨[0x2A, 0x86, 0x48, 0x86, 0xF7, 0x0D, 0x02, 0x0A], by decide⟩
  | sha512 => ⟨[0x2A, 0x86, 0x48, 0x86, 0xF7, 0x0D, 0x02, 0x0B], by decide⟩

/-- The one that is meant when none is named. -/
def standard : Prf := sha1

/-- The algorithm identifier. -/
def identifier (prf : Prf) : Pkcs8.AlgorithmIdentifier :=
  ⟨prf.oid, some Pkcs8.nullParameter⟩

end Prf

/-! ## Key derivation -/

/-- The parameters of PBKDF2. -/
structure Pbkdf2 where
  salt : Bytes
  /-- The number of links of a chain. -/
  iterations : Nat
  /-- The number of bytes of the key, if it is written down. -/
  keyLength : Option Nat
  prf : Prf
deriving DecidableEq, Repr

namespace Pbkdf2

/-- The identifier 1.2.840.113549.1.5.12. -/
def oid : Oid := ⟨[0x2A, 0x86, 0x48, 0x86, 0xF7, 0x0D, 0x01, 0x05, 0x0C], by decide⟩

/-- The DER form. -/
def encode (parameters : Pbkdf2) : Bytes :=
  Der.sequence [
    Der.octetString parameters.salt,
    Der.integer parameters.iterations,
    parameters.keyLength.elim [] Der.integer,
    if parameters.prf = .standard then [] else parameters.prf.identifier.encode]

end Pbkdf2

/-- The parameters of scrypt. -/
structure Scrypt where
  salt : Bytes
  cost : Kdf.ScryptCost
  /-- The number of bytes of the key, if it is written down. -/
  keyLength : Option Nat
deriving DecidableEq, Repr

namespace Scrypt

/-- The identifier 1.3.6.1.4.1.11591.4.11. -/
def oid : Oid := ⟨[0x2B, 0x06, 0x01, 0x04, 0x01, 0xDA, 0x47, 0x04, 0x0B], by decide⟩

/-- The DER form. -/
def encode (parameters : Scrypt) : Bytes :=
  Der.sequence [
    Der.octetString parameters.salt,
    Der.integer parameters.cost.n,
    Der.integer parameters.cost.r,
    Der.integer parameters.cost.p,
    parameters.keyLength.elim [] Der.integer]

end Scrypt

/-- A key derivation with its parameters. -/
inductive Derivation where
  | pbkdf2 (parameters : Pbkdf2)
  | scrypt (parameters : Scrypt)
deriving DecidableEq, Repr

namespace Derivation

/-- The identifier of the function. -/
def oid : Derivation → Oid
  | pbkdf2 _ => Pbkdf2.oid
  | scrypt _ => Scrypt.oid

/-- The number of bytes of the key, if it is written down. -/
def keyLength : Derivation → Option Nat
  | pbkdf2 parameters => parameters.keyLength
  | scrypt parameters => parameters.keyLength

/-- The DER form of the parameters. -/
def parameterBytes : Derivation → Bytes
  | pbkdf2 parameters => parameters.encode
  | scrypt parameters => parameters.encode

/-- The DER form. -/
def encode (derivation : Derivation) : Bytes :=
  Der.sequence [Der.oid derivation.oid, derivation.parameterBytes]

end Derivation

/-! ## Ciphers -/

/-- The sizes of key with which AES is used in cipher block chaining. -/
inductive AesCbc where
  | aes128
  | aes192
  | aes256
deriving DecidableEq, Repr

namespace AesCbc

/-- All of them. -/
def all : List AesCbc := [aes128, aes192, aes256]

/-- The identifiers 2.16.840.1.101.3.4.1.2, 2.16.840.1.101.3.4.1.22 and 2.16.840.1.101.3.4.1.42. -/
def oid : AesCbc → Oid
  | aes128 => ⟨[0x60, 0x86, 0x48, 0x01, 0x65, 0x03, 0x04, 0x01, 0x02], by decide⟩
  | aes192 => ⟨[0x60, 0x86, 0x48, 0x01, 0x65, 0x03, 0x04, 0x01, 0x16], by decide⟩
  | aes256 => ⟨[0x60, 0x86, 0x48, 0x01, 0x65, 0x03, 0x04, 0x01, 0x2A], by decide⟩

/-- The number of bytes of a key. -/
def keySize : AesCbc → Nat
  | aes128 => 16
  | aes192 => 24
  | aes256 => 32

/-- The usual name. -/
def name : AesCbc → String
  | aes128 => "aes-128-cbc"
  | aes192 => "aes-192-cbc"
  | aes256 => "aes-256-cbc"

/-- The number of bytes of an initialization vector. -/
def ivSize : Nat := 16

end AesCbc

/-! ## Schemes -/

/-- A scheme of the second kind. -/
structure Pbes2 where
  derivation : Derivation
  cipher : AesCbc
  iv : Bytes
deriving DecidableEq, Repr

namespace Pbes2

/-- The identifier 1.2.840.113549.1.5.13. -/
def oid : Oid := ⟨[0x2A, 0x86, 0x48, 0x86, 0xF7, 0x0D, 0x01, 0x05, 0x0D], by decide⟩

/-- The DER form. -/
def encode (scheme : Pbes2) : Bytes :=
  Der.sequence [
    Der.oid oid,
    Der.sequence [
      scheme.derivation.encode,
      Der.sequence [Der.oid scheme.cipher.oid, Der.octetString scheme.iv]]]

end Pbes2

/-- A scheme of the first kind. -/
structure Pbes1 where
  oid : Oid
  salt : Bytes
  iterations : Nat
deriving DecidableEq, Repr

namespace Pbes1

/-- The identifiers 1.2.840.113549.1.5.1, 3, 4, 6, 10 and 11. -/
def oids : List Oid := [
  ⟨[0x2A, 0x86, 0x48, 0x86, 0xF7, 0x0D, 0x01, 0x05, 0x01], by decide⟩,
  ⟨[0x2A, 0x86, 0x48, 0x86, 0xF7, 0x0D, 0x01, 0x05, 0x03], by decide⟩,
  ⟨[0x2A, 0x86, 0x48, 0x86, 0xF7, 0x0D, 0x01, 0x05, 0x04], by decide⟩,
  ⟨[0x2A, 0x86, 0x48, 0x86, 0xF7, 0x0D, 0x01, 0x05, 0x06], by decide⟩,
  ⟨[0x2A, 0x86, 0x48, 0x86, 0xF7, 0x0D, 0x01, 0x05, 0x0A], by decide⟩,
  ⟨[0x2A, 0x86, 0x48, 0x86, 0xF7, 0x0D, 0x01, 0x05, 0x0B], by decide⟩]

/-- The number of bytes of a salt. -/
def saltSize : Nat := 8

end Pbes1

/-- An encryption scheme. -/
inductive Scheme where
  | pbes1 (scheme : Pbes1)
  | pbes2 (scheme : Pbes2)
deriving DecidableEq, Repr

end SealedKey.Pkcs5
