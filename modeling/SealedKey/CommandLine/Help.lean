/-!
# Help texts
-/

namespace SealedKey.CommandLine

/-- The name and the version of the program. -/
def versionText : String := "pem-fixture 0.1.0\n"

/-- The first lines of both help texts. -/
def helpHead : List String := [
  "Convert the PEM private key test fixture to or from encrypted PKCS#8",
  "",
  "Usage: pem-fixture <MODE> [KEY_DIR]",
  "",
  "Arguments:"]

/-- Lines as a text. -/
def unlines (lines : List String) : String :=
  String.join (lines.map (· ++ "\n"))

/-- The help text with one line for each argument. -/
def shortHelpText : String := unlines (helpHead ++ [
  "  <MODE>     Conversion to perform [possible values: encrypt, decrypt, check]",
  "  [KEY_DIR]  Directory holding test_pvk_private_key.pem and test_pvk_private_key_encrypted.pem",
  "",
  "Options:",
  "  -h, --help     Print help (see more with '--help')",
  "  -V, --version  Print version"])

/-- The help text that explains the modes. -/
def longHelpText : String := unlines (helpHead ++ [
  "  <MODE>",
  "          Conversion to perform",
  "",
  "          Possible values:",
  "          - encrypt: Encrypt the plain fixture with the fixture passphrase",
  "          - decrypt: Decrypt the encrypted fixture back to plain PKCS#8",
  "          - check:   Verify the encrypted fixture opens with the fixture passphrase",
  "",
  "  [KEY_DIR]",
  "          Directory holding test_pvk_private_key.pem and test_pvk_private_key_encrypted.pem",
  "",
  "Options:",
  "  -h, --help",
  "          Print help (see a summary with '-h')",
  "",
  "  -V, --version",
  "          Print version"])

end SealedKey.CommandLine
