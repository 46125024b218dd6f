import SealedKey.Key.Algorithm
import SealedKey.Key.Protection

/-!
# Reports

What is said about a key after a job on its fixture.
-/

namespace SealedKey

/-- What a job found. -/
structure Report where
  /-- The file that was written, or read if none was. -/
  path : String
  algorithm : KeyAlgorithm
  /-- The fingerprint of the public key, if there is one. -/
  fingerprint : Option String
  /-- How the file is encrypted, if it is. -/
  encryption : Option SchemeDetails

namespace Report

/-- A report in one line. -/
def describe (report : Report) : String :=
  let fingerprint := report.fingerprint.getD "(no public key)"
  let encryption := match report.encryption with
    | some details => s!" [{details.describe}]"
    | none => ""
  s!"{report.path}: {report.algorithm.describe} {fingerprint}{encryption}"

end Report

end SealedKey
