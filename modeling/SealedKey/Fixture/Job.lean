import SealedKey.Fixture.Host
import SealedKey.Fixture.Paths
import SealedKey.Fixture.Report
import SealedKey.Key.Encryption

/-!
# Jobs on fixtures

A job encrypts the plain file of a fixture, decrypts the encrypted one, or checks that the
encrypted one can be read.  It reads one file and writes at most one, and the file that
it writes is written before the report is made.
-/

namespace SealedKey

/-- What to do with a fixture. -/
inductive Direction where
  | encrypt
  | decrypt
  | check
deriving DecidableEq, Repr

/-- A fixture, and how its key is protected. -/
structure Job where
  paths : FixturePaths := .standard
  passphrase : Passphrase := .fixture
  /-- How an encryption is done. -/
  protection : Protection := .standard

namespace Job

variable {m : Type → Type} [Monad m] [Host m]

open Host

/-- Reads one file of the fixture. -/
def readKey (path : String) : ExceptT Stop m String := do
  log .debug "reading key fixture" [("path", path)]
  readText path

/-- The fingerprint for a report: a key without a public key has none. -/
def fingerprint (key : PrivateKey) : ExceptT Stop m (Option String) :=
  match key.fingerprint with
  | .ok text => return some text
  | .error (.unsupportedAlgorithm reason) => do
    log .debug "key has no fingerprint" [("reason", reason)]
    return none
  | .error cause => throw (.failed cause)

/-- Makes the report on a key, and records that the job is done. -/
def report (message path : String) (key : PrivateKey) (encryption : Option SchemeDetails) :
    ExceptT Stop m Report := do
  let fingerprint ← fingerprint key
  log .info message [
    ("path", path),
    ("algorithm", key.algorithm.describe),
    ("fingerprint", Log.optionalText fingerprint)]
  return ⟨path, key.algorithm, fingerprint, encryption⟩

/-- Encrypts the plain file into the encrypted one. -/
def encrypt (job : Job) : ExceptT Stop m Report := do
  let text ← readKey job.paths.plain
  let key ← ofExcept (PrivateKey.ofPem text)
  log .debug "encrypting key fixture" [("scheme", job.protection.debug)]
  let encrypted ← ofDraw (key.encrypt job.passphrase job.protection)
  writeText job.paths.encrypted encrypted
  let details ← ofExcept (SchemeDetails.ofPem encrypted)
  report "wrote encrypted key fixture" job.paths.encrypted key (some details)

/-- Decrypts the encrypted file into the plain one. -/
def decrypt (job : Job) : ExceptT Stop m Report := do
  let text ← readKey job.paths.encrypted
  let key ← ofExcept (PrivateKey.ofEncryptedPem text job.passphrase)
  let plain ← ofExcept key.toPem
  writeText job.paths.plain plain
  report "wrote decrypted key fixture" job.paths.plain key none

/-- Checks that the encrypted file can be read with the passphrase. -/
def check (job : Job) : ExceptT Stop m Report := do
  let text ← readKey job.paths.encrypted
  let details ← ofExcept (SchemeDetails.ofPem text)
  let key ← ofExcept (PrivateKey.ofEncryptedPem text job.passphrase)
  report "encrypted key fixture is readable" job.paths.encrypted key (some details)

/-- Runs a job. -/
def run (job : Job) : Direction → ExceptT Stop m Report
  | .encrypt => job.encrypt
  | .decrypt => job.decrypt
  | .check => job.check

end Job

end SealedKey
