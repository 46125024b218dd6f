import SealedKey.Hash.Sha2

/-!
# SHA-256 and SHA-224

The two digests over words of 32 bits.
-/

namespace SealedKey.Hash

namespace Sha2

/-- The first bits of the cube roots of the first 64 primes. -/
def roundConstants32 : List UInt32 := [
  0x428A2F98, 0x71374491, 0xB5C0FBCF, 0xE9B5DBA5, 0x3956C25B, 0x59F111F1, 0x923F82A4, 0xAB1C5ED5,
  0xD807AA98, 0x12835B01, 0x243185BE, 0x550C7DC3, 0x72BE5D74, 0x80DEB1FE, 0x9BDC06A7, 0xC19BF174,
  0xE49B69C1, 0xEFBE4786, 0x0FC19DC6, 0x240CA1CC, 0x2DE92C6F, 0x4A7484AA, 0x5CB0A9DC, 0x76F988DA,
  0x983E5152, 0xA831C66D, 0xB00327C8, 0xBF597FC7, 0xC6E00BF3, 0xD5A79147, 0x06CA6351, 0x14292967,
  0x27B70A85, 0x2E1B2138, 0x4D2C6DFC, 0x53380D13, 0x650A7354, 0x766A0ABB, 0x81C2C92E, 0x92722C85,
  0xA2BFE8A1, 0xA81A664B, 0xC24B8B70, 0xC76C51A3, 0xD192E819, 0xD6990624, 0xF40E3585, 0x106AA070,
  0x19A4C116, 0x1E376C08, 0x2748774C, 0x34B0BCB5, 0x391C0CB3, 0x4ED8AA4A, 0x5B9CCA4F, 0x682E6FF3,
  0x748F82EE, 0x78A5636F, 0x84C87814, 0x8CC70208, 0x90BEFFFA, 0xA4506CEB, 0xBEF9A3F7, 0xC67178F2]

/-- A word of 32 bits rotated to the right, by a number of bits between 1 and 31. -/
def rotate32 (x count : UInt32) : UInt32 :=
  (x >>> count) ||| (x <<< (32 - count))

instance : Word UInt32 where
  width := 4
  ofBytes bytes := UInt32.ofNat (BigEndian.toNat bytes)
  toBytes x := BigEndian.padded 4 x.toNat
  roundConstants := roundConstants32
  mixOld x := rotate32 x 7 ^^^ rotate32 x 18 ^^^ (x >>> 3)
  mixNew x := rotate32 x 17 ^^^ rotate32 x 19 ^^^ (x >>> 10)
  mixA x := rotate32 x 2 ^^^ rotate32 x 13 ^^^ rotate32 x 22
  mixE x := rotate32 x 6 ^^^ rotate32 x 11 ^^^ rotate32 x 25

end Sha2

/-- SHA-256, with digests of 32 bytes. -/
def sha256 : Hash (Sha2.Registers UInt32) :=
  Sha2.hash 32 ⟨0x6A09E667, 0xBB67AE85, 0x3C6EF372, 0xA54FF53A,
    0x510E527F, 0x9B05688C, 0x1F83D9AB, 0x5BE0CD19⟩

/-- SHA-224: the first 28 bytes of the state, from a start of its own. -/
def sha224 : Hash (Sha2.Registers UInt32) :=
  Sha2.hash 28 ⟨0xC1059ED8, 0x367CD507, 0x3070DD17, 0xF70E5939,
    0xFFC00B31, 0x68581511, 0x64F98FA7, 0xBEFA4FA4⟩

end SealedKey.Hash
