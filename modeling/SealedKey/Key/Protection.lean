import SealedKey.Pkcs5.Scheme

/-!
# Passphrases and protections

A key is protected by a passphrase and one of two schemes, both with AES-256-CBC.  What is
found in an encrypted document is described by `SchemeDetails`.
-/

namespace SealedKey

/-- A secret byte string, usually the UTF-8 form of a text. -/
structure Passphrase where
  bytes : Bytes
deriving DecidableEq

namespace Passphrase

/-- The passphrase of a text. -/
def ofString (text : String) : Passphrase := ⟨Bytes.ofString text⟩

/-- The passphrase that all fixtures share. -/
def fixture : Passphrase := ofString "test_password"

/-- A passphrase does not show its bytes. -/
def debug (_ : Passphrase) : String := "Passphrase(<redacted>)"

end Passphrase

/-- A scheme by which keys are encrypted. -/
inductive Protection where
  /-- PBKDF2 with HMAC-SHA-256, with chains of this many links. -/
  | pbkdf2 (iterations : UInt32)
  /-- scrypt at its usual cost. -/
  | scrypt
deriving DecidableEq, Repr

namespace Protection

/-- PBKDF2 with 2048 iterations. -/
def standard : Protection := pbkdf2 2048

/-- The protection as a value. -/
def debug : Protection → String
  | pbkdf2 iterations =>
    "Pbkdf2Sha256Aes256Cbc \x7b iterations: " ++ toString iterations ++ " \x7d"
  | scrypt => "ScryptAes256Cbc"

/-- The greatest number of iterations with which keys are encrypted. -/
def maxIterations : Nat := 100000000

/-- The usual cost of scrypt. -/
def scryptCost : Kdf.ScryptCost := ⟨1 <<< 17, 8, 1⟩

/-- The key derivation with a salt. -/
def derivation (salt : Bytes) : Protection → Pkcs5.Derivation
  | pbkdf2 iterations => .pbkdf2 ⟨salt, iterations.toNat, none, .sha256⟩
  | scrypt => .scrypt ⟨salt, scryptCost, none⟩

/-- Whether keys are encrypted in this way. -/
def Admitted : Protection → Prop
  | pbkdf2 iterations => iterations.toNat ≤ maxIterations
  | scrypt => True

instance : (protection : Protection) → Decidable protection.Admitted
  | pbkdf2 _ => inferInstanceAs (Decidable (_ ≤ _))
  | scrypt => isTrue trivial

/-- The scheme with a salt and an initialization vector. -/
def scheme (protection : Protection) (salt iv : Bytes) : Pkcs5.Pbes2 :=
  ⟨protection.derivation salt, .aes256, iv⟩

end Protection

/-- The scheme of an encrypted document, as it is reported. -/
structure SchemeDetails where
  /-- The name of the key derivation. -/
  kdf : String
  /-- The number of iterations, of PBKDF2 only. -/
  iterations : Option Nat
  /-- The name of the cipher. -/
  cipher : String
deriving DecidableEq, Repr

namespace SchemeDetails

/-- The details in one line. -/
def describe (details : SchemeDetails) : String :=
  match details.iterations with
  | some iterations => s!"{details.kdf} ({iterations} iterations), {details.cipher}"
  | none => s!"{details.kdf}, {details.cipher}"

/-- The details of a scheme. -/
def ofScheme : Pkcs5.Scheme → SchemeDetails
  | .pbes2 ⟨.pbkdf2 parameters, cipher, _⟩ => ⟨"pbkdf2", some parameters.iterations, cipher.name⟩
  | .pbes2 ⟨.scrypt _, cipher, _⟩ => ⟨"scrypt", none, cipher.name⟩
  | .pbes1 scheme => ⟨"pbes1", none, toString scheme.oid⟩

end SchemeDetails

end SealedKey
