/-!
# Paths of a fixture

A fixture is a pair of files, one with a plain key and one with the same key encrypted.
They usually stand in one directory under fixed names.
-/

namespace SealedKey

/-- Where the two files of a fixture are. -/
structure FixturePaths where
  plain : String
  encrypted : String
deriving DecidableEq, Repr

namespace FixturePaths

/-- The name of the file with the plain key. -/
def plainName : String := "test_pvk_private_key.pem"

/-- The name of the file with the encrypted key. -/
def encryptedName : String := "test_pvk_private_key_encrypted.pem"

/-- The path of a name in a directory: a slash comes between, unless there is one. -/
def join (dir name : String) : String :=
  if dir = "" ∨ dir.endsWith "/" then dir ++ name else dir ++ "/" ++ name

/-- The files with the usual names in a directory. -/
def inDir (dir : String) : FixturePaths :=
  ⟨join dir plainName, join dir encryptedName⟩

/-- The directory of fixtures. -/
def standardDir : String := "keys"

/-- The files with the usual names in the usual directory. -/
def standard : FixturePaths := inDir standardDir

end FixturePaths

end SealedKey
