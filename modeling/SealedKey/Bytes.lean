/-!
# Bytes

Byte strings are lists of bytes, so that readers and writers of the same
format can be compared by equations on lists.

* `Bytes.split?` cuts off a given number of bytes, or fails as a whole.
* `Bytes.ofString` is the UTF-8 form of a text, and `Bytes.toString?` reads it.
* `BigEndian.toNat` and its two inverses read and write natural numbers with
  the most significant byte first: `BigEndian.ofNat` without leading zeros,
  `BigEndian.padded` in a given width.
-/

namespace SealedKey

/-- A byte string. -/
abbrev Bytes := List UInt8

namespace Bytes

/-- The first `n` bytes and the rest, or `none` when there are fewer than `n`. -/
def split? (n : Nat) (bytes : Bytes) : Option (Bytes × Bytes) :=
  go [] n bytes
where
  /-- Moves `n` bytes over to `taken`, which holds them last first. -/
  go (taken : Bytes) : Nat → Bytes → Option (Bytes × Bytes)
    | 0, rest => some (taken.reverse, rest)
    | _ + 1, [] => none
    | n + 1, byte :: rest => go (byte :: taken) n rest

theorem split?.go_eq_some_iff {taken front back rest : Bytes} {n : Nat} :
    split?.go taken n rest = some (front, back) ↔
      ∃ part, front = taken.reverse ++ part ∧ part.length = n ∧ rest = part ++ back := by
  induction n generalizing taken rest with
  | zero =>
    constructor
    · intro h
      simp only [split?.go, Option.some.injEq, Prod.mk.injEq] at h
      exact ⟨[], by simp [h.1], rfl, by simp [h.2]⟩
    · rintro ⟨part, hfront, hlength, hrest⟩
      obtain rfl := List.eq_nil_of_length_eq_zero hlength
      simp [split?.go, hfront, hrest]
  | succ n ih =>
    cases rest with
    | nil =>
      simp only [split?.go, reduceCtorEq, false_iff]
      rintro ⟨part, -, hlength, hrest⟩
      have : part = [] := (List.append_eq_nil_iff.1 hrest.symm).1
      simp [this] at hlength
    | cons byte rest =>
      simp only [split?.go, ih]
      constructor
      · rintro ⟨part, hfront, hlength, hrest⟩
        exact ⟨byte :: part, by simp [hfront], by simp [hlength], by simp [hrest]⟩
      · rintro ⟨part, hfront, hlength, hrest⟩
        cases part with
        | nil => simp at hlength
        | cons head part =>
          simp only [List.cons_append, List.cons.injEq] at hrest
          exact ⟨part, by simp [hfront, hrest.1], by simpa using hlength, hrest.2⟩

/-- A split succeeds exactly on the inputs that are its two parts put together. -/
theorem split?_eq_some_iff {n : Nat} {bytes front back : Bytes} :
    split? n bytes = some (front, back) ↔ front.length = n ∧ bytes = front ++ back := by
  simp [split?, split?.go_eq_some_iff]

theorem split?_append {front back : Bytes} :
    split? front.length (front ++ back) = some (front, back) :=
  split?_eq_some_iff.2 ⟨rfl, rfl⟩

/-- The UTF-8 form of a text. -/
def ofString (text : String) : Bytes :=
  text.toUTF8.data.toList

/-- The text whose UTF-8 form the bytes are, if there is one. -/
def toString? (bytes : Bytes) : Option String :=
  String.fromUTF8? ⟨bytes.toArray⟩

/-- Reading undoes writing. -/
theorem toString?_ofString (text : String) : toString? (ofString text) = some text := by
  have h : (⟨text.toUTF8.data.toList.toArray⟩ : ByteArray) = text.toUTF8 := by simp
  rw [toString?, ofString, h]
  simp only [String.fromUTF8?]
  exact dif_pos text.isValidUTF8

/-- The UTF-8 form of a list of characters. -/
def ofChars (text : List Char) : Bytes :=
  text.flatMap String.utf8EncodeChar

end Bytes

/-! ## Big-endian numbers -/

namespace BigEndian

/-- The number that `bytes` write, most significant byte first. -/
def toNat (bytes : Bytes) : Nat :=
  bytes.foldl (fun n byte => n * 256 + byte.toNat) 0

/-- The last `width` bytes of the big-endian form of `n`. -/
def padded : (width : Nat) → (n : Nat) → Bytes
  | 0, _ => []
  | width + 1, n => padded width (n / 256) ++ [UInt8.ofNat n]

/-- The number of significant bits of `n`, `0` for `0`. -/
def bitLength (n : Nat) : Nat :=
  if n = 0 then 0 else n.log2 + 1

/-- The big-endian form of `n` without leading zero bytes; `0` has no bytes. -/
def ofNat (n : Nat) : Bytes :=
  padded ((bitLength n + 7) / 8) n

@[simp] theorem length_padded (width n : Nat) : (padded width n).length = width := by
  induction width generalizing n with
  | zero => rfl
  | succ width ih => simp [padded, ih]

theorem toNat_append_singleton (bytes : Bytes) (byte : UInt8) :
    toNat (bytes ++ [byte]) = toNat bytes * 256 + byte.toNat := by
  simp [toNat]

end BigEndian

end SealedKey
