import SealedKey.Pkcs8.PrivateKeyInfo
import SealedKey.Pkcs8.PublicKeyInfo
import SealedKey.Proofs.Der.Fields

/-!
# The layout of key documents

`PrivateKeyInfo.ofDer_eq_ok_iff` says which byte strings are private key documents and what they
say.  A document is the fields of its key, and besides them it can have fields that are read and
dropped: some with the number 0 before the public key and some with any number at the end.
These are its `Surplus`, and `encodeWith` writes a key with a surplus.

A public key document has no such freedom (`PublicKeyInfo.ofDer_eq_ok_iff`).
-/

namespace SealedKey.Pkcs8

open Der Der.Reader

/-! ## Algorithm identifiers -/

namespace AlgorithmIdentifier

/-- The contents of the DER form. -/
def contents (algorithm : AlgorithmIdentifier) : Bytes :=
  Der.oid algorithm.oid ++ algorithm.parameters.elim [] Element.encode

theorem encode_eq (algorithm : AlgorithmIdentifier) :
    algorithm.encode = element .sequence algorithm.contents := by
  simp [encode, Der.sequence, contents]

/-- What it takes for an algorithm identifier to be read back. -/
structure Readable (algorithm : AlgorithmIdentifier) : Prop where
  minLength_le : Oid.minLength ≤ algorithm.oid.encoding.length
  length_le : algorithm.contents.length ≤ maxLength

theorem length_parameters_lt {algorithm : AlgorithmIdentifier} {e : Element}
    (h : e ∈ algorithm.parameters) : e.contents.length < algorithm.contents.length := by
  obtain ⟨oid, _⟩ := algorithm
  cases h
  have := length_lt_length_element e.tag e.contents
  simp only [contents, Option.elim_some, List.length_append, Element.encode]
  omega

theorem reads_read : Reads read fun algorithm front _ =>
    algorithm.Readable ∧ front = algorithm.encode := by
  refine (Reads.sequence (reads_oid.bind fun oid => reads_any?.bind fun parameters =>
    reads_pure (AlgorithmIdentifier.mk oid parameters))).congr fun algorithm front rest => ?_
  constructor
  · intro h
    obtain ⟨_, hmax, rfl, oid, _, _, rfl, ⟨hoid, rfl⟩, parameters, _, _, rfl, ⟨rfl, -⟩, rfl, rfl⟩ :=
      h
    rw [List.append_nil] at hmax ⊢
    exact ⟨⟨hoid, hmax⟩, (encode_eq ⟨oid, parameters⟩).symm⟩
  · intro h
    obtain ⟨⟨hoid, hmax⟩, rfl⟩ := h
    refine ⟨algorithm.contents, hmax, encode_eq algorithm, algorithm.oid, _, _, rfl, ⟨hoid, rfl⟩,
      algorithm.parameters, _, [], (List.append_nil _).symm, ⟨rfl, ?_, fun _ => rfl⟩, rfl, rfl⟩
    intro e he
    exact Nat.le_of_lt (Nat.lt_of_lt_of_le (length_parameters_lt he) hmax)

end AlgorithmIdentifier

/-! ## Private keys -/

/-- Fields of a private key document that are dropped when it is read. -/
structure Surplus where
  /-- Fields before the public key. -/
  before : List Element
  /-- Fields behind the public key. -/
  behind : List Extension

/-- Where fields of a surplus can stand: none of them may be taken for the public key. -/
structure Surplus.Fits (surplus : Surplus) (info : PrivateKeyInfo) : Prop where
  tag_before : ∀ e ∈ surplus.before,
    ∃ constructed, e.tag = .numbered .contextSpecific constructed Tag.firstField
  number_behind : info.publicKey = none →
    ∀ e ∈ surplus.behind.head?, PrivateKeyInfo.publicKeyField < e.number

namespace PrivateKeyInfo

/-- The contents of a document with a surplus. -/
def contentsWith (info : PrivateKeyInfo) (surplus : Surplus) : Bytes :=
  Der.integer info.version ++ (info.algorithm.encode ++ (Der.octetString info.privateKey ++
    (surplus.before.flatMap Element.encode ++ info.publicKey.elim [] publicKeyElement ++
      surplus.behind.flatMap Extension.encode)))

/-- The DER form of a document with a surplus. -/
def encodeWith (info : PrivateKeyInfo) (surplus : Surplus) : Bytes :=
  element .sequence (info.contentsWith surplus)

theorem encodeWith_nil (info : PrivateKeyInfo) : info.encodeWith ⟨[], []⟩ = info.encode := by
  simp [encodeWith, contentsWith, encode, Der.sequence]

theorem flatMap_eq_nil_iff_of_pos {α : Type} {f : α → Bytes} (h : ∀ x, 0 < (f x).length)
    {xs : List α} : xs.flatMap f = [] ↔ xs = [] := by
  rw [List.flatMap_eq_nil_iff]
  refine ⟨fun hnil => ?_, fun hnil => by simp [hnil]⟩
  cases xs with
  | nil => rfl
  | cons x xs =>
    have := h x
    rw [hnil x List.mem_cons_self] at this
    contradiction

/-- A document is the DER form of its key exactly if it has no surplus. -/
theorem encode_eq_encodeWith_iff {info : PrivateKeyInfo} {surplus : Surplus} :
    info.encode = info.encodeWith surplus ↔ surplus.before = [] ∧ surplus.behind = [] := by
  rw [← encodeWith_nil, encodeWith, encodeWith, element_inj]
  simp only [contentsWith, List.append_cancel_left_eq, List.flatMap_nil, List.nil_append,
    List.append_nil]
  have hbefore (e : Element) : 0 < e.encode.length := length_element_pos e.tag e.contents
  have hbehind (e : Extension) : 0 < e.encode.length := length_element_pos _ _
  constructor
  · intro h
    have hlength := congrArg List.length h
    simp only [List.length_append] at hlength
    refine ⟨(flatMap_eq_nil_iff_of_pos hbefore).1 (List.length_eq_zero_iff.1 (by omega)),
      (flatMap_eq_nil_iff_of_pos hbehind).1 (List.length_eq_zero_iff.1 (by omega))⟩
  · intro hform
    obtain ⟨hbefore, hbehind⟩ := hform
    simp [hbefore, hbehind]

theorem length_encode_le (info : PrivateKeyInfo) (surplus : Surplus) :
    info.encode.length ≤ (info.encodeWith surplus).length := by
  rw [← encodeWith_nil]
  refine length_element_mono ?_
  simp only [contentsWith, List.length_append, List.flatMap_nil, List.length_nil]
  omega

theorem length_privateKey_lt (info : PrivateKeyInfo) (surplus : Surplus) :
    info.privateKey.length < (info.encodeWith surplus).length := by
  have := length_lt_length_element .octetString info.privateKey
  have := length_lt_length_element .sequence (info.contentsWith surplus)
  simp only [encodeWith, contentsWith, Der.octetString, List.length_append] at *
  omega

/-- What it takes for a document with a surplus to be read back. -/
structure Readable (info : PrivateKeyInfo) (surplus : Surplus) : Prop where
  fits : surplus.Fits info
  algorithm : info.algorithm.Readable
  privateKey : info.privateKey.length ≤ maxLength
  before : ∀ e ∈ surplus.before, e.contents.length ≤ maxLength
  publicKey : ∀ bytes ∈ info.publicKey, bytes.length < maxLength
  behind : ∀ e ∈ surplus.behind, Bounded e

theorem skips_publicKeyField_iff {e : Element} : Skips publicKeyField e ↔
    e.contents.length ≤ maxLength ∧
      ∃ constructed, e.tag = .numbered .contextSpecific constructed Tag.firstField := by
  have hfirst (next : Fin 31) : next < publicKeyField ↔ next = Tag.firstField := by
    revert next
    decide
  simp only [Skips, hfirst, exists_eq_right]

theorem version_le (info : PrivateKeyInfo) : info.version ≤ 1 := by
  unfold version
  split <;> decide

/-- The bytes of the public key, with those of the fields that are skipped before it. -/
theorem publicKey_form_iff {publicKey : Option Bytes} {front rest : Bytes} :
    FieldForm publicKeyField false (fun bits body => bits.WellFormed ∧ body = bits.contents)
        (publicKey.map (Bits.mk 0)) front rest ↔
      ∃ before : List Element, (∀ e ∈ before, Skips publicKeyField e) ∧
        (∀ bytes ∈ publicKey, bytes.length < maxLength) ∧
        front = before.flatMap Element.encode ++ publicKey.elim [] publicKeyElement ∧
        (publicKey = none → BeginsElse (Passes publicKeyField) rest) := by
  cases publicKey with
  | none =>
    constructor
    · intro h
      obtain ⟨before, hbefore, rfl, hrest⟩ := h
      exact ⟨before, hbefore, nofun, (List.append_nil _).symm, fun _ => hrest⟩
    · intro h
      obtain ⟨before, hbefore, -, rfl, hrest⟩ := h
      exact ⟨before, hbefore, List.append_nil _, hrest rfl⟩
  | some bytes =>
    constructor
    · intro h
      obtain ⟨before, hbefore, _, hmax, ⟨-, rfl⟩, rfl⟩ := h
      refine ⟨before, hbefore, ?_, rfl, nofun⟩
      rintro _ ⟨⟩
      exact hmax
    · intro h
      obtain ⟨before, hbefore, hmax, rfl, -⟩ := h
      exact ⟨before, hbefore, 0 :: bytes, hmax bytes rfl, ⟨Bits.wellFormed_whole bytes, rfl⟩, rfl⟩

theorem reads_readFields : Reads readFields fun info front rest =>
    rest = [] ∧ ∃ surplus, info.Readable surplus ∧ front = info.contentsWith surplus := by
  unfold readFields
  refine ((reads_unsigned 1 (by decide) (by decide)).bind fun version =>
    Reads.guard (p := 1 < version) <| AlgorithmIdentifier.reads_read.bind fun algorithm =>
    reads_octets.bind fun privateKey => (reads_implicitBits publicKeyField).bind fun bits? =>
    (reads_whole bits?).bind fun publicKey =>
    Reads.guard (p := PrivateKeyInfo.version ⟨algorithm, privateKey, publicKey⟩ ≠ version) <|
    reads_many_extension.bind fun _ =>
    reads_pure (PrivateKeyInfo.mk algorithm privateKey publicKey)).congr fun info front rest => ?_
  constructor
  · intro h
    obtain ⟨version, _, _, rfl, ⟨-, rfl⟩, -, algorithm, _, _, rfl, ⟨halgorithm, rfl⟩,
      privateKey, _, _, rfl, ⟨hprivate, rfl⟩, bits?, _, _, rfl, hbits, publicKey, _, _, rfl,
      ⟨rfl, rfl⟩, hversion, _, _, _, rfl, ⟨hend, behind, rfl, hbehind, rfl⟩, rfl, rfl⟩ := h
    obtain rfl := not_not.1 hversion
    obtain rfl : rest = [] := hend
    simp only [List.nil_append, List.append_nil] at hbits
    obtain ⟨before, hbefore, hpublic, rfl, hpasses⟩ := publicKey_form_iff.1 hbits
    refine ⟨rfl, ⟨before, behind⟩, ⟨⟨?_, ?_⟩, halgorithm, hprivate, ?_, hpublic, hbehind⟩, ?_⟩
    · exact fun e he => (skips_publicKeyField_iff.1 (hbefore e he)).2
    · exact fun hnone => beginsElse_passes_iff.1 (hpasses hnone)
    · exact fun e he => (hbefore e he).1
    · simp only [List.append_nil, List.nil_append, contentsWith]
  · intro h
    obtain ⟨rfl, surplus, hreadable, rfl⟩ := h
    have hbefore (e) (he : e ∈ surplus.before) : Skips publicKeyField e :=
      skips_publicKeyField_iff.2 ⟨hreadable.before e he, hreadable.fits.tag_before e he⟩
    have hversion := version_le info
    refine ⟨info.version, _, _, rfl, ⟨by omega, rfl⟩, by omega, info.algorithm, _, _, rfl,
      ⟨hreadable.algorithm, rfl⟩, info.privateKey, _, _, rfl, ⟨hreadable.privateKey, rfl⟩,
      info.publicKey.map (Bits.mk 0), _, _, rfl, publicKey_form_iff.2 ⟨surplus.before, hbefore,
        hreadable.publicKey, rfl, ?_⟩, info.publicKey, [], _, rfl, ⟨rfl, rfl⟩, not_not.2 rfl, _, _,
      [], (List.append_nil _).symm, ⟨rfl, surplus.behind, rfl, hreadable.behind, rfl⟩, rfl, rfl⟩
    intro hnone
    rw [List.append_nil]
    exact beginsElse_passes_iff.2 (hreadable.fits.number_behind hnone)

theorem length_le_length_flatMap {α : Type} {f : α → Bytes} {x : α} {xs : List α} (h : x ∈ xs) :
    (f x).length ≤ (xs.flatMap f).length :=
  (List.sublist_flatten_of_mem (List.mem_map_of_mem h)).length_le

/-- Within a document that is not too long, nothing is too long. -/
theorem readable_of_length_le {info : PrivateKeyInfo} {surplus : Surplus}
    (hfits : surplus.Fits info) (hoid : Oid.minLength ≤ info.algorithm.oid.encoding.length)
    (hmax : (info.contentsWith surplus).length ≤ maxLength) : info.Readable surplus := by
  simp only [contentsWith, List.length_append] at hmax
  refine ⟨hfits, ⟨hoid, ?_⟩, ?_, ?_, ?_, ?_⟩
  · have := length_lt_length_element .sequence info.algorithm.contents
    rw [← AlgorithmIdentifier.encode_eq] at this
    omega
  · have := length_lt_length_element .octetString info.privateKey
    rw [Der.octetString] at hmax
    omega
  · intro e he
    have := length_lt_length_element e.tag e.contents
    have := length_le_length_flatMap (f := Element.encode) he
    rw [Element.encode] at this
    omega
  · intro bytes hbytes
    rw [hbytes] at hmax
    have := length_lt_length_element (.implicit publicKeyField) (0 :: bytes)
    simp only [Option.elim_some, publicKeyElement, List.length_cons] at hmax this
    omega
  · intro e he
    have := length_lt_length_element (.explicit e.number) e.element.encode
    have := length_lt_length_element e.element.tag e.element.contents
    have := length_le_length_flatMap (f := Extension.encode) he
    rw [Extension.encode] at this
    rw [Bounded, Element.encode] at *
    omega

/-- The private key documents: those of a key with a surplus. -/
theorem ofDer_eq_ok_iff {document : Bytes} {info : PrivateKeyInfo} :
    ofDer document = .ok info ↔ document.length ≤ maxLength ∧
      Oid.minLength ≤ info.algorithm.oid.encoding.length ∧
        ∃ surplus : Surplus, surplus.Fits info ∧ document = info.encodeWith surplus := by
  rw [ofDer, (Reads.sequence reads_readFields).run_eq_ok_iff]
  refine and_congr_right fun hlength => ?_
  constructor
  · intro h
    obtain ⟨_, -, rfl, -, surplus, hreadable, rfl⟩ := h
    exact ⟨hreadable.algorithm.minLength_le, surplus, hreadable.fits, rfl⟩
  · intro h
    obtain ⟨hoid, surplus, hfits, rfl⟩ := h
    have hmax := Nat.le_trans
      (Nat.le_of_lt (length_lt_length_element .sequence (info.contentsWith surplus))) hlength
    exact ⟨_, hmax, rfl, rfl, surplus, readable_of_length_le hfits hoid hmax, rfl⟩

/-- The DER form of a key is read back, if it is not too long for a document. -/
theorem ofDer_encode {info : PrivateKeyInfo} (hlength : info.encode.length ≤ maxLength)
    (hoid : Oid.minLength ≤ info.algorithm.oid.encoding.length) :
    ofDer info.encode = .ok info :=
  ofDer_eq_ok_iff.2 ⟨hlength, hoid, ⟨[], []⟩, ⟨nofun, fun _ => nofun⟩, (encodeWith_nil info).symm⟩

/-- What was read from a document can be written again, and it is not longer then. -/
theorem ofDer_encode_of_ofDer {document : Bytes} {info : PrivateKeyInfo}
    (h : ofDer document = .ok info) :
    info.encode.length ≤ maxLength ∧ ofDer info.encode = .ok info := by
  obtain ⟨hlength, hoid, surplus, -, rfl⟩ := ofDer_eq_ok_iff.1 h
  have hencode := Nat.le_trans (info.length_encode_le surplus) hlength
  exact ⟨hencode, ofDer_encode hencode hoid⟩

end PrivateKeyInfo

/-! ## Public keys -/

namespace PublicKeyInfo

/-- The contents of the DER form. -/
def contents (info : PublicKeyInfo) : Bytes :=
  info.algorithm.encode ++ Der.bitString info.publicKey

theorem encode_eq (info : PublicKeyInfo) : info.encode = element .sequence info.contents := by
  simp [encode, Der.sequence, contents]

theorem reads_readFields : Reads (do
      let algorithm ← AlgorithmIdentifier.read
      let bits ← bits
      return PublicKeyInfo.mk algorithm (← liftM bits.whole)) fun info front _ =>
    info.algorithm.Readable ∧ info.publicKey.length < maxLength ∧ front = info.contents := by
  refine (AlgorithmIdentifier.reads_read.bind fun algorithm => reads_bits.bind fun bits =>
    (reads_lift bits.whole).bind fun bytes =>
      reads_pure (PublicKeyInfo.mk algorithm bytes)).congr fun info front rest => ?_
  simp only [Bits.whole_eq_ok_iff]
  constructor
  · intro h
    obtain ⟨algorithm, _, _, rfl, ⟨halgorithm, rfl⟩, bits, _, _, rfl, ⟨-, hmax, rfl⟩, bytes, _, _,
      rfl, ⟨rfl, rfl⟩, rfl, rfl⟩ := h
    rw [List.append_nil, List.append_nil]
    exact ⟨halgorithm, hmax, rfl⟩
  · intro h
    obtain ⟨halgorithm, hmax, rfl⟩ := h
    exact ⟨info.algorithm, _, _, rfl, ⟨halgorithm, rfl⟩, ⟨0, info.publicKey⟩, _, [],
      (List.append_nil _).symm, ⟨Bits.wellFormed_whole _, hmax, rfl⟩, info.publicKey, [], [], rfl,
      ⟨rfl, rfl⟩, rfl, rfl⟩

/-- The public key documents are the DER forms of public keys. -/
theorem ofDer_eq_ok_iff {document : Bytes} {info : PublicKeyInfo} :
    ofDer document = .ok info ↔ document.length ≤ maxLength ∧
      Oid.minLength ≤ info.algorithm.oid.encoding.length ∧ document = info.encode := by
  rw [ofDer, read, (Reads.sequence reads_readFields).run_eq_ok_iff, encode_eq]
  refine and_congr_right fun hlength => ?_
  constructor
  · intro h
    obtain ⟨_, -, rfl, halgorithm, -, rfl⟩ := h
    exact ⟨halgorithm.minLength_le, rfl⟩
  · rintro ⟨hoid, rfl⟩
    have hmax := Nat.le_trans
      (Nat.le_of_lt (length_lt_length_element .sequence info.contents)) hlength
    have halgorithm := length_lt_length_element .sequence info.algorithm.contents
    have hbits := length_lt_length_element .bitString (0 :: info.publicKey)
    have hparts : info.algorithm.encode.length + (Der.bitString info.publicKey).length ≤
        maxLength := by
      rwa [contents, List.length_append] at hmax
    rw [AlgorithmIdentifier.encode_eq, Der.bitString] at hparts
    rw [List.length_cons] at hbits
    exact ⟨_, hmax, rfl, ⟨hoid, by omega⟩, by omega, rfl⟩

end PublicKeyInfo

end SealedKey.Pkcs8
