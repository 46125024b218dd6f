import SealedKey.Bytes

/-!
# Object identifiers

An object identifier is held in its encoded form, and two of them are equal
when their encodings are.  The first byte holds the first two arcs, and every
further arc is a number in base 128 whose bytes except the last have the high
bit set.

An encoding is well formed when it has at least two bytes, its first byte gives a
first arc of at most 2, and no arc has a fifth byte above 15.  Arcs may start
with needless zero digits, so several encodings can show the same numbers.  Documents hold
only identifiers of three bytes and more: `Oid.ofBytes?` accepts no shorter ones, although
a text may name them.  `Oid.ofText?` gives the identifier that a text names; no text names
one with an arc that begins with the digits 1 and 0 in base 128.
-/

namespace SealedKey

namespace Oid

/-- The values of arcs are kept modulo this number. -/
def arcModulus : Nat := 1 <<< 32

/-- The greatest number of bytes of an encoding. -/
def maxLength : Nat := 39

/--
The arcs after the first two, or `none` if one of them is malformed or not
finished.  `digits` and `value` are those of the arc being read.
-/
def laterArcs? (digits value : Nat) : Bytes → Option (List Nat)
  | [] => if digits = 0 then some [] else none
  | byte :: rest =>
    if 4 ≤ digits ∧ 16 ≤ byte then none
    else
      let value := (value * 128 + (byte % 128).toNat) % arcModulus
      if byte < 128 then (value :: ·) <$> laterArcs? 0 0 rest
      else laterArcs? (digits + 1) value rest

/-- The arcs of an encoding, or `none` if it is malformed. -/
def arcs? : Bytes → Option (List Nat)
  | first :: second :: rest =>
    if maxLength < rest.length + 2 then none
    else if 120 ≤ first then none
    else do
      let later ← laterArcs? 0 0 (second :: rest)
      return (first / 40).toNat :: (first % 40).toNat :: later
  | _ => none

end Oid

/-- An object identifier. -/
structure Oid where
  /-- The bytes that write it. -/
  encoding : Bytes
  /-- The bytes are well formed. -/
  isSome_arcs? : (Oid.arcs? encoding).isSome
deriving DecidableEq, Repr

namespace Oid

/-- The object identifier with the given encoding, if it is well formed. -/
def ofEncoding? (encoding : Bytes) : Option Oid :=
  if h : (arcs? encoding).isSome then some ⟨encoding, h⟩ else none

/-- The least number of bytes of an encoding in a document. -/
def minLength : Nat := 3

/-- The object identifier that a document writes in these bytes. -/
def ofBytes? (encoding : Bytes) : Option Oid :=
  if encoding.length < minLength then none else ofEncoding? encoding

theorem ofEncoding?_encoding (oid : Oid) : ofEncoding? oid.encoding = some oid := by
  simp [ofEncoding?, oid.isSome_arcs?]

theorem ofBytes?_encoding {oid : Oid} (h : minLength ≤ oid.encoding.length) :
    ofBytes? oid.encoding = some oid := by
  rw [ofBytes?, if_neg (Nat.not_lt.mpr h), ofEncoding?_encoding]

theorem encoding_of_ofBytes? {encoding : Bytes} {oid : Oid} (h : ofBytes? encoding = some oid) :
    oid.encoding = encoding := by
  unfold ofBytes? ofEncoding? at h
  split at h
  · simp at h
  · split at h
    · simp only [Option.some.injEq] at h
      rw [← h]
    · simp at h

/-- The identifiers that documents hold, each in its own encoding. -/
theorem ofBytes?_eq_some_iff {encoding : Bytes} {oid : Oid} :
    ofBytes? encoding = some oid ↔ minLength ≤ oid.encoding.length ∧ encoding = oid.encoding := by
  constructor
  · intro h
    have hencoding := encoding_of_ofBytes? h
    refine ⟨Nat.le_of_not_lt fun hlt => ?_, hencoding.symm⟩
    rw [ofBytes?, if_pos (hencoding ▸ hlt)] at h
    contradiction
  · rintro ⟨hlength, rfl⟩
    exact ofBytes?_encoding hlength

/-- The numbers of an object identifier. -/
def arcs (oid : Oid) : List Nat :=
  (arcs? oid.encoding).get oid.isSome_arcs?

instance : ToString Oid where
  toString oid := ".".intercalate (oid.arcs.map toString)

/-! ## Object identifiers from their numbers -/

/-- The number of bytes for an arc. -/
def arcSize (arc : Nat) : Nat :=
  if arc < 0x80 then 1
  else if arc < 0x4000 then 2
  else if arc < 0x200000 then 3
  else if arc < 0x20000000 then 4
  else 5

/--
Writes an arc in base 128 to so many bytes, from the last byte on; `mark` is the high bit of
that byte.  As soon as at most 128 is left, this goes to the first byte, and the bytes between
stay zero.  An arc that begins with the digits 1 and 0 thus turns into two others.
-/
def writeArc? (mark : UInt8) (arc : Nat) : Nat → Option Bytes
  | 0 => none
  | places + 1 =>
    if arc ≤ 0x80 then some ((UInt8.ofNat arc ||| mark) :: List.replicate places 0)
    else (· ++ [UInt8.ofNat (arc % 0x80) ||| mark]) <$> writeArc? 0x80 (arc / 0x80) places

/-- The bytes of an arc. -/
def arcBytes? (arc : Nat) : Option Bytes :=
  if arc < arcModulus then writeArc? 0 arc (arcSize arc) else none

/-- The object identifier that these numbers give, if its encoding is not too long. -/
def ofArcs? : List Nat → Option Oid
  | first :: second :: later => do
    let body ← later.mapM arcBytes?
    let encoding := UInt8.ofNat (first * 40 + second) :: body.flatten
    if first ≤ 2 ∧ second < 40 ∧ encoding.length < maxLength then ofEncoding? encoding
    else none
  | _ => none

/-- The number that decimal digits write; no digits write 0. -/
def number (digits : List Char) : Nat :=
  digits.foldl (fun n c => n * 10 + (c.toNat - '0'.toNat)) 0

/--
The object identifier written as numbers between dots.  A number may lack its digits, except the
first and the last one.
-/
def ofText? (text : String) : Option Oid :=
  let pieces := text.toList.splitOn '.'
  if pieces.head? = some [] ∨ pieces.getLast? = some [] then none
  else if pieces.all (·.all Char.isDigit) then ofArcs? (pieces.map number)
  else none

end Oid

end SealedKey
