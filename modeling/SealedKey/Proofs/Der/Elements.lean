import SealedKey.Proofs.Bytes
import SealedKey.Proofs.Der.Reads

/-!
# What the readers of single elements accept

Every reader of one element accepts exactly what the writer of that element writes: DER has one
form for each value.  A length is accepted up to `maxLength`, and the values that have no form at
all are object identifiers of two bytes.
-/

namespace SealedKey.Der

/-! ## Tags -/

namespace Tag

theorem ofByte?_byte (tag : Tag) : ofByte? tag.byte = some tag := by
  cases tag with
  | numbered cls constructed number =>
    revert cls constructed number
    have h : ∀ cls ∈ [TagClass.application, .contextSpecific, .privateUse],
        ∀ constructed number, ofByte? (numbered cls constructed number).byte =
          some (numbered cls constructed number) := by decide +kernel
    intro cls
    exact h cls (by cases cls <;> decide)
  | _ => rfl

theorem byte_of_ofByte? {byte : UInt8} {tag : Tag} (h : ofByte? byte = some tag) :
    tag.byte = byte := by
  have hall : ∀ x : UInt8, (ofByte? x).all fun tag => tag.byte == x :=
    forall_byte (by decide +kernel)
  have := hall byte
  rw [h] at this
  exact eq_of_beq this

theorem byte_injective : Function.Injective byte := fun tag tag' h =>
  Option.some.inj (by rw [← ofByte?_byte tag, h, ofByte?_byte])

end Tag

/-! ## Lengths -/

theorem length_lengthBytes_pos (n : Nat) : 0 < (lengthBytes n).length := by
  unfold lengthBytes
  split <;> simp

theorem length_ofNat_le_four {n : Nat} (h : n ≤ maxLength) : (BigEndian.ofNat n).length ≤ 4 := by
  rw [BigEndian.length_ofNat_le_iff]
  simp only [maxLength] at h
  omega

theorem length_ofNat_pos {n : Nat} (h : 0x80 ≤ n) : 0 < (BigEndian.ofNat n).length := by
  have : ¬ (BigEndian.ofNat n).length ≤ 0 := by
    rw [BigEndian.length_ofNat_le_iff]
    omega
  omega

/-- A number that is written in more than one byte: its digits and how many there are. -/
theorem lengthBytes_of_le {n : Nat} (h : 0x80 ≤ n) : lengthBytes n =
    UInt8.ofNat (0x80 + (BigEndian.ofNat n).length) :: BigEndian.ofNat n := by
  rw [lengthBytes, if_neg (by omega)]

/-- A length that fits into its first byte has no other form than that byte. -/
theorem lengthBytes_toNat {first : UInt8} (h : first < 0x80) :
    lengthBytes first.toNat = [first] := by
  have hlt : first.toNat < 0x80 := UInt8.lt_iff_toNat_lt.1 h
  rw [lengthBytes, if_pos hlt, UInt8.ofNat_toNat]

/-- The digits of a length that is written in more than one byte are its shortest ones. -/
theorem lengthBytes_eq_cons {first : UInt8} {digits : Bytes} (hlow : ¬ first < 0x80)
    (hcount : digits.length = first.toNat - 0x80) (hmax : BigEndian.toNat digits ≤ maxLength)
    (hhead : (lengthBytes (BigEndian.toNat digits)).head? = some first) :
    lengthBytes (BigEndian.toNat digits) = first :: digits := by
  generalize hn : BigEndian.toNat digits = n at hhead hmax ⊢
  have hlow' : 0x80 ≤ first.toNat := Nat.le_of_not_lt fun h => hlow (UInt8.lt_iff_toNat_lt.2 h)
  by_cases hsmall : n < 0x80
  · rw [lengthBytes, if_pos hsmall, List.head?_cons, Option.some.injEq] at hhead
    rw [← hhead, UInt8.toNat_ofNat'] at hlow'
    omega
  · have hsize := length_ofNat_le_four hmax
    rw [lengthBytes_of_le (by omega)] at hhead ⊢
    rw [List.head?_cons, Option.some.injEq] at hhead
    have hlength : digits.length = (BigEndian.ofNat n).length := by
      rw [hcount, ← hhead, UInt8.toNat_ofNat']
      omega
    have hdigits : BigEndian.ofNat n = digits := by
      rw [BigEndian.length_ofNat] at hlength
      rw [BigEndian.ofNat, ← hlength, ← hn, BigEndian.padded_toNat]
    rw [hhead, hdigits]

theorem length_lengthBytes_le {n : Nat} (h : n ≤ maxLength) : (lengthBytes n).length ≤ 5 := by
  by_cases hsmall : n < 0x80
  · rw [lengthBytes, if_pos hsmall, List.length_singleton]
    omega
  · have := length_ofNat_le_four h
    rw [lengthBytes_of_le (by omega), List.length_cons]
    omega

theorem length_lengthBytes_mono {m n : Nat} (h : m ≤ n) :
    (lengthBytes m).length ≤ (lengthBytes n).length := by
  by_cases hsmall : m < 0x80
  · have := length_lengthBytes_pos n
    rw [lengthBytes, if_pos hsmall, List.length_singleton]
    omega
  · have hn := BigEndian.length_ofNat_le_iff.1 (Nat.le_refl (BigEndian.ofNat n).length)
    have hm := BigEndian.length_ofNat_le_iff.2 (Nat.lt_of_le_of_lt h hn)
    rw [lengthBytes_of_le (by omega), lengthBytes_of_le (by omega)]
    exact Nat.succ_le_succ hm

theorem length_element (tag : Tag) (contents : Bytes) : (element tag contents).length =
    1 + (lengthBytes contents.length).length + contents.length := by
  simp only [element, List.length_append, List.length_cons]
  omega

theorem length_element_mono {tag tag' : Tag} {contents contents' : Bytes}
    (h : contents.length ≤ contents'.length) :
    (element tag contents).length ≤ (element tag' contents').length := by
  have := length_lengthBytes_mono h
  rw [length_element, length_element]
  omega

theorem length_element_pos (tag : Tag) (contents : Bytes) : 0 < (element tag contents).length :=
  Nat.succ_pos _

theorem length_lt_length_element (tag : Tag) (contents : Bytes) :
    contents.length < (element tag contents).length := by
  rw [length_element]
  omega

/-- Elements with the same bytes have the same contents. -/
theorem element_inj {tag : Tag} {contents contents' : Bytes} :
    element tag contents = element tag contents' ↔ contents = contents' := by
  refine ⟨fun h => ?_, fun h => by rw [h]⟩
  have hlength := congrArg List.length h
  rw [length_element, length_element] at hlength
  have hcontents : contents.length = contents'.length := by
    rcases Nat.le_total contents.length contents'.length with hle | hle
    · have := length_lengthBytes_mono hle
      omega
    · have := length_lengthBytes_mono hle
      omega
  simp only [element, List.cons_append, List.cons.injEq, true_and] at h
  exact (List.append_inj' h hcontents).2

theorem length_element_le (tag : Tag) {contents : Bytes} {n : Nat} (h : contents.length ≤ n)
    (hmax : n ≤ maxLength) : (element tag contents).length ≤ n + 6 := by
  have := length_lengthBytes_le (Nat.le_trans h hmax)
  rw [length_element]
  omega

/-! ## Object identifiers and bit strings -/

theorem length_encoding_le (oid : Oid) : oid.encoding.length ≤ Oid.maxLength := by
  have h := oid.isSome_arcs?
  unfold Oid.arcs? at h
  split at h
  · rename_i first second rest hencoding
    refine Nat.le_of_not_lt fun hlt => ?_
    rw [hencoding, List.length_cons, List.length_cons] at hlt
    rw [if_pos hlt] at h
    contradiction
  · contradiction

/-- The number of unused bits that a bit string can have. -/
def Bits.WellFormed (bits : Bits) : Prop :=
  ¬ (7 < bits.unused ∨ (bits.unused ≠ 0 ∧ bits.bytes = []))

/-- The contents of a bit string. -/
def Bits.contents (bits : Bits) : Bytes :=
  bits.unused :: bits.bytes

theorem Bits.whole_eq_ok_iff {bits : Bits} {bytes : Bytes} :
    bits.whole = .ok bytes ↔ bits = ⟨0, bytes⟩ := by
  obtain ⟨unused, bytes'⟩ := bits
  unfold Bits.whole
  split
  · rename_i hunused
    rw [Except.pure_eq_ok_iff, Bits.mk.injEq]
    exact (and_iff_right hunused).symm
  · rename_i hunused
    rw [Bits.mk.injEq]
    exact iff_of_false Except.throw_ne_ok fun h => hunused h.1

theorem Bits.wellFormed_whole (bytes : Bytes) : Bits.WellFormed ⟨0, bytes⟩ := by
  simp [WellFormed]

/-! ## Numbers -/

theorem integerBytes_of_lt {n : Nat} {first : UInt8} {rest : Bytes}
    (h : BigEndian.ofNat n = first :: rest) (hfirst : first < 0x80) :
    integerBytes n = first :: rest := by
  rw [integerBytes, h]
  exact if_pos hfirst

theorem integerBytes_of_not_lt {n : Nat} {first : UInt8} {rest : Bytes}
    (h : BigEndian.ofNat n = first :: rest) (hfirst : ¬ first < 0x80) :
    integerBytes n = 0 :: first :: rest := by
  rw [integerBytes, h]
  exact if_neg hfirst

theorem length_integerBytes_le (n : Nat) :
    (integerBytes n).length ≤ (BigEndian.ofNat n).length + 1 := by
  unfold integerBytes
  split
  · simp
  · rename_i first rest h
    rw [h]
    split <;> simp

theorem length_ofNat_le_length_integerBytes (n : Nat) :
    (BigEndian.ofNat n).length ≤ (integerBytes n).length := by
  unfold integerBytes
  split
  · rename_i h
    rw [h]
    exact Nat.zero_le _
  · rename_i first rest h
    rw [h]
    split <;> simp

/-- A number of so many bytes takes at most seven more as an element. -/
theorem length_integer_le {n width : Nat} (h : n < 256 ^ width) (hmax : width + 1 ≤ maxLength) :
    (integer n).length ≤ width + 7 := by
  have hdigits := BigEndian.length_ofNat_le_iff.2 h
  have hbytes := length_integerBytes_le n
  exact length_element_le .integer (n := width + 1) (by omega) hmax

theorem lt_length_integer {n width : Nat} (h : 256 ^ width ≤ n) :
    width + 1 < (integer n).length := by
  have hdigits := mt BigEndian.length_ofNat_le_iff.1 (Nat.not_lt.2 h)
  have hbytes := length_ofNat_le_length_integerBytes n
  have := length_lt_length_element .integer (integerBytes n)
  rw [integer]
  omega

theorem ofNat_ne_nil {n : Nat} (h : n ≠ 0) : BigEndian.ofNat n ≠ [] := by
  intro hnil
  have := BigEndian.toNat_ofNat n
  rw [hnil] at this
  exact h this.symm

namespace Reader

variable {α : Type}

theorem tagOfByte_eq_ok_iff {byte : UInt8} {tag : Tag} :
    tagOfByte byte = .ok tag ↔ byte = tag.byte := by
  unfold tagOfByte
  split
  · rename_i tag' h
    rw [Except.pure_eq_ok_iff, ← Tag.byte_of_ofByte? h, Tag.byte_injective.eq_iff]
  · rename_i h
    refine iff_of_false Except.throw_ne_ok ?_
    rintro rfl
    rw [Tag.ofByte?_byte] at h
    contradiction

/-! ## Lengths -/

theorem reads_bytewise (count : Nat) :
    Reads (length.bytewise count) fun value front _ => front = value ∧ value.length = count := by
  induction count with
  | zero =>
    refine (reads_pure []).congr fun value front rest => ?_
    rw [List.length_eq_zero_iff]
    constructor
    · intro h
      obtain ⟨rfl, rfl⟩ := h
      exact ⟨rfl, rfl⟩
    · intro h
      obtain ⟨rfl, rfl⟩ := h
      exact ⟨rfl, rfl⟩
  | succ count ih =>
    refine (reads_byte.bind fun first => ih.bind fun later => reads_pure (first :: later)).congr
      fun value front rest => ?_
    constructor
    · intro h
      obtain ⟨first, _, _, rfl, rfl, later, _, _, rfl, ⟨rfl, hlength⟩, rfl, rfl⟩ := h
      exact ⟨by simp, by simp [hlength]⟩
    · intro h
      obtain ⟨rfl, hlength⟩ := h
      obtain ⟨first, later, rfl⟩ := List.exists_cons_of_length_eq_add_one hlength
      exact ⟨first, [first], later, rfl, rfl, later, later, [], (List.append_nil _).symm,
        ⟨rfl, by simpa using hlength⟩, rfl, rfl⟩

theorem reads_length (tag : Tag) :
    Reads (length tag) fun n front _ => n ≤ maxLength ∧ front = lengthBytes n := by
  unfold length
  refine (reads_byte.bind fun first => (reads_pure first.toNat).ite <| .guard <| .guard <|
    (reads_bytewise (first.toNat - 0x80)).bind fun digits => .guard <| .guard <|
      reads_pure (BigEndian.toNat digits)).congr fun n front rest => ?_
  constructor
  · intro h
    obtain ⟨first, _, b, rfl, rfl, ⟨hlow, rfl, rfl⟩ | ⟨hlow, -, -, digits, _, _, rfl,
      ⟨rfl, hcount⟩, hmax, hhead, rfl, rfl⟩⟩ := h
    · have hlt : first.toNat < 0x80 := UInt8.lt_iff_toNat_lt.1 hlow
      refine ⟨?_, (lengthBytes_toNat hlow).symm⟩
      simp only [maxLength]
      omega
    · rw [Nat.not_lt] at hmax
      rw [not_not] at hhead
      rw [lengthBytes_eq_cons hlow hcount hmax hhead]
      exact ⟨hmax, by simp⟩
  · intro h
    obtain ⟨hmax, rfl⟩ := h
    by_cases hsmall : n < 0x80
    · refine ⟨UInt8.ofNat n, [UInt8.ofNat n], [], ?_, rfl, .inl ⟨?_, ?_, rfl⟩⟩
      · rw [lengthBytes, if_pos hsmall]
        rfl
      · rw [UInt8.lt_iff_toNat_lt, UInt8.toNat_ofNat']
        simp only [UInt8.reduceToNat]
        omega
      · rw [UInt8.toNat_ofNat']
        omega
    · have hle : 0x80 ≤ n := by omega
      have hsize := length_ofNat_le_four hmax
      have hpos := length_ofNat_pos hle
      have hfirst : (UInt8.ofNat (0x80 + (BigEndian.ofNat n).length)).toNat =
          0x80 + (BigEndian.ofNat n).length := by
        rw [UInt8.toNat_ofNat']
        omega
      rw [lengthBytes_of_le hle]
      refine ⟨_, [_], BigEndian.ofNat n, rfl, rfl, .inr ⟨?_, ?_, ?_, BigEndian.ofNat n,
        BigEndian.ofNat n, [], (List.append_nil _).symm, ⟨rfl, ?_⟩, ?_, ?_, ?_, rfl⟩⟩
      · rw [UInt8.lt_iff_toNat_lt, hfirst]
        simp only [UInt8.reduceToNat]
        omega
      · rw [← UInt8.toNat_inj, hfirst]
        simp only [UInt8.reduceToNat]
        omega
      · rw [UInt8.lt_iff_toNat_lt, hfirst]
        simp only [UInt8.reduceToNat]
        omega
      · rw [hfirst]
        omega
      · rw [BigEndian.toNat_ofNat]
        omega
      · rw [BigEndian.toNat_ofNat, lengthBytes_of_le hle, not_not, List.head?_cons]
      · rw [BigEndian.toNat_ofNat]

theorem reads_header : Reads header fun head front _ =>
    head.2 ≤ maxLength ∧ front = head.1.byte :: lengthBytes head.2 := by
  unfold header
  refine (reads_byte.bind fun first => (reads_lift (tagOfByte first)).bind fun tag =>
    (reads_length tag).bind fun count => reads_pure (tag, count)).congr fun head front rest => ?_
  simp only [tagOfByte_eq_ok_iff]
  constructor
  · intro h
    obtain ⟨first, _, _, rfl, rfl, tag, _, _, rfl, ⟨rfl, rfl⟩, count, _, _, rfl, ⟨hmax, rfl⟩, rfl,
      rfl⟩ := h
    exact ⟨hmax, by simp⟩
  · intro h
    obtain ⟨hmax, rfl⟩ := h
    exact ⟨head.1.byte, [head.1.byte], _, rfl, rfl, head.1, [], _, rfl, ⟨rfl, rfl⟩, head.2, _, [],
      (List.append_nil _).symm, ⟨hmax, rfl⟩, rfl, rfl⟩

theorem reads_expect (tag : Tag) : Reads (expect tag) fun count front _ =>
    count ≤ maxLength ∧ front = tag.byte :: lengthBytes count := by
  unfold expect
  refine (reads_header.bind fun head => (reads_pure head.2).ite (p := head.1 = tag) <|
    reads_throw (.unexpectedTag tag head.1)).congr fun count front rest => ?_
  constructor
  · intro h
    obtain ⟨⟨actual, _⟩, _, _, rfl, ⟨hmax, rfl⟩, ⟨rfl, rfl, rfl⟩ | ⟨-, ⟨⟩⟩⟩ := h
    exact ⟨hmax, by simp⟩
  · intro h
    obtain ⟨hmax, rfl⟩ := h
    exact ⟨(tag, count), _, [], (List.append_nil _).symm, ⟨hmax, rfl⟩, .inl ⟨rfl, rfl, rfl⟩⟩

/-! ## Contents -/

/-- The contents of an element are read to their end, as if nothing came behind them. -/
theorem reads_nested {read : Reader α} {form : α → Bytes → Bytes → Prop} (h : Reads read form)
    (count : Nat) :
    Reads (nested count read) fun value front _ => form value front [] ∧ front.length = count := by
  intro start value stop
  simp only [nested, bind_eq_ok_iff, get_eq_ok_iff, lift_eq_ok_iff, StateT.run]
  constructor
  · intro hgiven
    obtain ⟨_, _, ⟨rfl, rfl⟩, contents, middle, htake, ⟨_, inner⟩, _, ⟨hread, rfl⟩, ⟨⟩, _,
      ⟨hfinish, rfl⟩, hvalue⟩ := hgiven
    obtain ⟨_, ⟨rfl, hcount⟩, hstart, hmiddle⟩ := (reads_take count ..).1 htake
    obtain ⟨front, hform, hcontents, -⟩ := (h ..).1 hread
    rw [finish_eq_ok_iff.1 hfinish] at hform hcontents
    cases hvalue
    rw [List.append_nil] at hcontents
    cases hcontents
    exact ⟨_, ⟨hform, hcount⟩, hstart, hmiddle⟩
  · intro hgiven
    obtain ⟨front, ⟨hform, hcount⟩, hstart, hstop⟩ := hgiven
    refine ⟨start, start, ⟨rfl, rfl⟩, front, stop,
      (reads_take count ..).2 ⟨front, ⟨rfl, hcount⟩, hstart, hstop⟩,
      (value, ⟨start.offset + front.length, []⟩), stop, ⟨?_, rfl⟩, (), stop,
      ⟨finish_eq_ok_iff.2 rfl, rfl⟩, rfl⟩
    exact (h ..).2 ⟨front, hform, (List.append_nil _).symm, rfl⟩
/-- A reader that goes on with the contents of an element. -/
theorem Reads.header_bind {next : Tag × Nat → Reader α}
    {forms : Tag × Nat → α → Bytes → Bytes → Prop} (h : ∀ head, Reads (next head) (forms head))
    (hlength : ∀ head value front rest, forms head value front rest → front.length = head.2) :
    Reads (do next (← header)) fun value front rest => ∃ tag body,
      body.length ≤ maxLength ∧ front = element tag body ∧
        forms (tag, body.length) value body rest := by
  refine (reads_header.bind h).congr fun value front rest => ?_
  constructor
  · intro hread
    obtain ⟨⟨tag, count⟩, _, body, rfl, ⟨hmax, rfl⟩, hform⟩ := hread
    obtain rfl : body.length = count := hlength _ _ _ _ hform
    exact ⟨tag, body, hmax, rfl, hform⟩
  · intro hread
    obtain ⟨tag, body, hmax, rfl, hform⟩ := hread
    exact ⟨(tag, body.length), _, body, rfl, ⟨hmax, rfl⟩, hform⟩

/-- A reader that goes on with the contents of an element that has a certain tag. -/
theorem Reads.expect_bind (tag : Tag) {next : Nat → Reader α}
    {forms : Nat → α → Bytes → Bytes → Prop} (h : ∀ count, Reads (next count) (forms count))
    (hlength : ∀ count value front rest, forms count value front rest → front.length = count) :
    Reads (do next (← expect tag)) fun value front rest => ∃ body,
      body.length ≤ maxLength ∧ front = element tag body ∧ forms body.length value body rest := by
  refine ((reads_expect tag).bind h).congr fun value front rest => ?_
  constructor
  · intro hread
    obtain ⟨count, _, body, rfl, ⟨hmax, rfl⟩, hform⟩ := hread
    obtain rfl : body.length = count := hlength _ _ _ _ hform
    exact ⟨body, hmax, rfl, hform⟩
  · intro hread
    obtain ⟨body, hmax, rfl, hform⟩ := hread
    exact ⟨body.length, _, body, rfl, ⟨hmax, rfl⟩, hform⟩

theorem Reads.sequence {read : Reader α} {form : α → Bytes → Bytes → Prop} (h : Reads read form) :
    Reads (sequence read) fun value front _ => ∃ body,
      body.length ≤ maxLength ∧ front = element .sequence body ∧ form value body [] := by
  refine (Reads.expect_bind .sequence (reads_nested h) fun _ _ _ _ h => h.2).congr
    fun value front rest => ?_
  simp only [and_true]

/-- A document that is read as a sequence is one, whatever its fields are. -/
theorem exists_element_of_run_sequence {read : Reader α} {input : Bytes} {value : α}
    (h : run (sequence read) input = .ok value) :
    ∃ body, body.length ≤ maxLength ∧ input = element .sequence body := by
  simp only [run, Except.bind_eq_ok_iff, document_eq_ok_iff, StateT.run] at h
  obtain ⟨_, ⟨-, rfl⟩, ⟨_, stop⟩, hread, _, hfinish, -⟩ := h
  have hrest : stop.rest = [] := finish_eq_ok_iff.1 hfinish
  obtain ⟨count, middle, hexpect, hnested⟩ := bind_eq_ok_iff.1 hread
  obtain ⟨_, ⟨hmax, rfl⟩, hinput, -⟩ := (reads_expect .sequence ..).1 hexpect
  simp only [nested, bind_eq_ok_iff, get_eq_ok_iff, lift_eq_ok_iff] at hnested
  obtain ⟨_, _, ⟨-, rfl⟩, _, _, htake, _, _, ⟨-, rfl⟩, _, _, ⟨-, rfl⟩, hvalue⟩ := hnested
  cases hvalue
  obtain ⟨body, ⟨rfl, rfl⟩, hmiddle, -⟩ := (reads_take count ..).1 htake
  rw [hrest, List.append_nil] at hmiddle
  rw [hmiddle] at hinput
  exact ⟨body, hmax, hinput⟩

/-- A sequence that was read as an element before. -/
theorem Reads.ofSequence_eq_ok_iff {read : Reader α} {form : α → Bytes → Bytes → Prop}
    (h : Reads read form) {e : Element} {value : α} :
    ofSequence read e = .ok value ↔
      e.tag = .sequence ∧ e.contents.length ≤ maxLength ∧ form value e.contents [] := by
  unfold ofSequence
  split
  · rename_i htag
    rw [h.run_eq_ok_iff]
    exact (and_iff_right htag).symm
  · rename_i htag
    exact iff_of_false Except.throw_ne_ok fun h => htag h.1

/-! ## Elements of the known types -/

theorem reads_any : Reads any fun e front _ =>
    e.contents.length ≤ maxLength ∧ front = e.encode := by
  refine (Reads.header_bind (fun head => (reads_take head.2).bind fun contents =>
    reads_pure (Element.mk head.1 contents)) ?_).congr fun e front rest => ?_
  · rintro head e front rest ⟨contents, _, _, rfl, ⟨rfl, hlength⟩, -, rfl⟩
    rw [List.append_nil, hlength]
  · constructor
    · intro h
      obtain ⟨tag, body, hmax, rfl, contents, _, _, hbody, ⟨rfl, hlength⟩, rfl, rfl⟩ := h
      rw [List.append_nil] at hbody
      exact hbody ▸ ⟨hmax, rfl⟩
    · intro h
      obtain ⟨hmax, rfl⟩ := h
      exact ⟨e.tag, e.contents, hmax, rfl, e.contents, e.contents, [], (List.append_nil _).symm,
        ⟨rfl, rfl⟩, rfl, rfl⟩

/-- No element is the start of a longer one. -/
theorem eq_nil_of_encode_append_eq (e e' : Element) {surplus : Bytes}
    (h : e.encode ++ surplus = e'.encode) (hmax : e.contents.length ≤ maxLength)
    (hmax' : e'.contents.length ≤ maxLength) : surplus = [] := by
  have hbytes : e.encode ++ surplus = e'.encode ++ [] := by
    rw [h, List.append_nil]
  exact (reads_any.eq_of_append_eq ⟨hmax, rfl⟩ ⟨hmax', rfl⟩ hbytes).2

/-- Bytes behind a document that is read as a sequence are refused. -/
theorem exists_error_of_run_sequence {read : Reader α} {input surplus : Bytes} {value : α}
    (h : run (sequence read) input = .ok value) (hsurplus : surplus ≠ []) :
    ∃ cause, run (sequence read) (input ++ surplus) = .error cause := by
  cases hextended : run (sequence read) (input ++ surplus) with
  | error cause => exact ⟨cause, rfl⟩
  | ok value' =>
    obtain ⟨body, hmax, hinput⟩ := exists_element_of_run_sequence h
    obtain ⟨body', hmax', hextended⟩ := exists_element_of_run_sequence hextended
    rw [hinput] at hextended
    have hnil : surplus = [] :=
      eq_nil_of_encode_append_eq ⟨.sequence, body⟩ ⟨.sequence, body'⟩ hextended hmax hmax'
    exact absurd hnil hsurplus

theorem reads_octets : Reads octets fun bytes front _ =>
    bytes.length ≤ maxLength ∧ front = octetString bytes := by
  refine (Reads.expect_bind .octetString reads_take fun _ _ _ _ h => h.1 ▸ h.2).congr
    fun bytes front rest => ?_
  constructor
  · intro hform
    obtain ⟨body, hmax, rfl, rfl, -⟩ := hform
    exact ⟨hmax, rfl⟩
  · intro hform
    obtain ⟨hmax, rfl⟩ := hform
    exact ⟨bytes, hmax, rfl, rfl, rfl⟩

/-- An element, or nothing at the end of the contents. -/
theorem reads_any? : Reads any? fun e? front rest =>
    front = e?.elim [] Element.encode ∧ (∀ e ∈ e?, e.contents.length ≤ maxLength) ∧
      (e? = none → rest = []) := by
  refine (reads_atEnd.bind fun done => (reads_pure none).ite (p := done = true) <|
    reads_any.bind fun e => reads_pure (some e)).congr fun e? front rest => ?_
  constructor
  · intro h
    obtain ⟨done, _, _, rfl, ⟨hdone, rfl⟩,
      ⟨rfl, rfl, rfl⟩ | ⟨-, e, _, _, rfl, ⟨hmax, rfl⟩, rfl, rfl⟩⟩ := h
    · exact ⟨rfl, nofun, fun _ => List.isEmpty_iff.1 hdone.symm⟩
    · refine ⟨by simp, ?_, nofun⟩
      rintro _ ⟨⟩
      exact hmax
  · intro h
    obtain ⟨rfl, hmax, hend⟩ := h
    cases e? with
    | none =>
      exact ⟨true, [], [], rfl, ⟨(List.isEmpty_iff.2 (hend rfl)).symm, rfl⟩, .inl ⟨rfl, rfl, rfl⟩⟩
    | some e =>
      exact ⟨false, [], e.encode, rfl, ⟨rfl, rfl⟩, .inr ⟨nofun, e, e.encode, [],
        (List.append_nil _).symm, ⟨hmax e rfl, rfl⟩, rfl, rfl⟩⟩

theorem oidOfBytes_eq_ok_iff {contents : Bytes} {oid : Oid} :
    oidOfBytes contents = .ok oid ↔
      Oid.minLength ≤ oid.encoding.length ∧ contents = oid.encoding := by
  unfold oidOfBytes
  rw [← Oid.ofBytes?_eq_some_iff]
  split
  · rename_i oid' h
    rw [h, Except.pure_eq_ok_iff, Option.some.injEq]
  · rename_i h
    rw [h]
    exact iff_of_false Except.throw_ne_ok nofun

theorem reads_oid : Reads oid fun oid front _ =>
    Oid.minLength ≤ oid.encoding.length ∧ front = Der.oid oid := by
  refine (Reads.expect_bind .objectIdentifier (fun count => Reads.guard <|
    (reads_take count).bind fun contents => reads_lift (oidOfBytes contents)) ?_).congr
      fun oid front rest => ?_
  · rintro count oid front rest ⟨-, contents, _, _, rfl, ⟨rfl, hlength⟩, -, rfl⟩
    rw [List.append_nil, hlength]
  · simp only [oidOfBytes_eq_ok_iff]
    constructor
    · intro h
      obtain ⟨body, hmax, rfl, -, _, _, _, rfl, ⟨rfl, -⟩, ⟨hlength, rfl⟩, rfl⟩ := h
      rw [List.append_nil]
      exact ⟨hlength, rfl⟩
    · intro h
      obtain ⟨hlength, rfl⟩ := h
      have hle := length_encoding_le oid
      refine ⟨oid.encoding, ?_, rfl, Nat.not_lt.2 hle, oid.encoding, oid.encoding, [],
        (List.append_nil _).symm, ⟨rfl, rfl⟩, ⟨hlength, rfl⟩, rfl⟩
      simp only [Oid.maxLength] at hle
      simp only [maxLength]
      omega

/-! ## Bit strings -/

theorem reads_bitsOf (count : Nat) : Reads (bitsOf count) fun bits front _ =>
    bits.WellFormed ∧ front = bits.contents ∧ front.length = count := by
  unfold bitsOf
  refine (Reads.guard (p := count = 0) <| reads_byte.bind fun unused =>
    (reads_take (count - 1)).bind fun bytes => Reads.guard <|
      reads_pure (Bits.mk unused bytes)).congr fun bits front rest => ?_
  constructor
  · intro h
    obtain ⟨hcount, unused, _, _, rfl, rfl, bytes, _, _, rfl, ⟨rfl, hlength⟩, hform, rfl, rfl⟩ := h
    refine ⟨hform, by simp [Bits.contents], ?_⟩
    simp only [List.singleton_append, List.append_nil, List.length_cons, hlength]
    omega
  · intro h
    obtain ⟨hform, rfl, hlength⟩ := h
    rw [Bits.contents, List.length_cons] at hlength
    exact ⟨by omega, bits.unused, [bits.unused], bits.bytes, rfl, rfl, bits.bytes, bits.bytes, [],
      (List.append_nil _).symm, ⟨rfl, by omega⟩, hform, rfl, rfl⟩

theorem reads_bits : Reads bits fun bits front _ => bits.WellFormed ∧
    bits.contents.length ≤ maxLength ∧ front = element .bitString bits.contents := by
  refine (Reads.expect_bind .bitString reads_bitsOf fun _ _ _ _ h => h.2.2).congr
    fun bits front rest => ?_
  constructor
  · intro hread
    obtain ⟨body, hmax, rfl, hform, rfl, -⟩ := hread
    exact ⟨hform, hmax, rfl⟩
  · intro hread
    obtain ⟨hform, hmax, rfl⟩ := hread
    exact ⟨bits.contents, hmax, rfl, hform, rfl, rfl⟩

/-! ## Numbers -/

/-- The digits of a number, which are those of its contents without a sign byte. -/
theorem digits_integerBytes (n : Nat) :
    digits (integerBytes n) = .ok (if n = 0 then [0] else BigEndian.ofNat n) := by
  by_cases hn : n = 0
  · subst hn
    rfl
  · rw [if_neg hn]
    have hhead := BigEndian.head?_ofNat n
    obtain ⟨first, rest, hdigits⟩ := List.exists_cons_of_ne_nil (ofNat_ne_nil hn)
    rw [hdigits, List.head?_cons] at hhead
    have hfirst : first ≠ 0 := fun h => hhead (by rw [h])
    by_cases hlow : first < 0x80
    · rw [integerBytes_of_lt hdigits hlow, hdigits]
      cases rest with
      | nil => simp [digits, hlow, pure, Except.pure]
      | cons second rest => simp [digits, hlow, hfirst, pure, Except.pure]
    · rw [integerBytes_of_not_lt hdigits hlow, hdigits]
      simp [digits, hlow, pure, Except.pure]

theorem integerBytes_toNat_of_digits {contents bytes : Bytes} (h : digits contents = .ok bytes) :
    integerBytes (BigEndian.toNat bytes) = contents := by
  have hne {first : UInt8} {rest : Bytes} (hfirst : first ≠ 0) :
      BigEndian.ofNat (BigEndian.toNat (first :: rest)) = first :: rest :=
    BigEndian.ofNat_toNat (by simpa using hfirst)
  unfold digits at h
  split at h
  · contradiction
  · rename_i single
    split at h
    · rename_i hlow
      cases h
      by_cases hzero : single = 0
      · subst hzero
        rfl
      · rw [integerBytes_of_lt (hne hzero) hlow]
    · contradiction
  · rename_i first second rest
    split at h
    · rename_i hzero
      split at h
      · contradiction
      · rename_i hhigh
        cases h
        have hsecond : second ≠ 0 := by
          rintro rfl
          exact hhigh (by decide)
        rw [integerBytes_of_not_lt (hne hsecond) hhigh, hzero]
    · rename_i hzero
      split at h
      · rename_i hlow
        cases h
        rw [integerBytes_of_lt (hne hzero) hlow]
      · contradiction

theorem toNat_digits (n : Nat) :
    BigEndian.toNat (if n = 0 then [0] else BigEndian.ofNat n) = n := by
  split
  · rename_i hn
    rw [hn]
    rfl
  · exact BigEndian.toNat_ofNat n

theorem reads_natural : Reads natural fun n front _ =>
    (integerBytes n).length ≤ maxLength ∧ front = integer n := by
  refine (Reads.expect_bind .integer (fun count => (reads_take count).bind fun contents =>
    (reads_lift (digits contents)).bind fun bytes => reads_pure (BigEndian.toNat bytes)) ?_).congr
      fun n front rest => ?_
  · rintro count n front rest ⟨contents, _, _, rfl, ⟨rfl, hlength⟩, _, _, _, rfl, ⟨-, rfl⟩, -, rfl⟩
    rw [List.append_nil, List.append_nil, hlength]
  · constructor
    · intro h
      obtain ⟨_, hmax, rfl, contents, _, _, rfl, ⟨rfl, -⟩, bytes, _, _, rfl, ⟨hdigits, rfl⟩, rfl,
        rfl⟩ := h
      rw [List.append_nil, List.append_nil] at hmax ⊢
      rw [integer, integerBytes_toNat_of_digits hdigits]
      exact ⟨hmax, rfl⟩
    · intro h
      obtain ⟨hmax, rfl⟩ := h
      exact ⟨integerBytes n, hmax, rfl, _, integerBytes n, [], (List.append_nil _).symm, ⟨rfl, rfl⟩,
        _, [], [], rfl, ⟨digits_integerBytes n, rfl⟩, (toNat_digits n).symm, rfl⟩

/-- A reader that goes on behind a number. -/
theorem Reads.natural_bind {next : Nat → Reader α} {forms : Nat → α → Bytes → Bytes → Prop}
    (h : ∀ n, Reads (next n) (forms n)) :
    Reads (do next (← natural)) fun value front rest => ∃ n later,
      (integerBytes n).length ≤ maxLength ∧ front = integer n ++ later ∧
        forms n value later rest := by
  refine (reads_natural.bind h).congr fun value front rest => ?_
  constructor
  · intro hread
    obtain ⟨n, _, later, rfl, ⟨hmax, rfl⟩, hform⟩ := hread
    exact ⟨n, later, hmax, rfl, hform⟩
  · intro hread
    obtain ⟨n, later, hmax, rfl, hform⟩ := hread
    exact ⟨n, _, later, rfl, ⟨hmax, rfl⟩, hform⟩

/-- Numbers of at most `width` bytes. -/
theorem reads_unsigned (width : Nat) (hpos : 0 < width) (hwidth : width < maxLength) :
    Reads (unsigned width) fun n front _ => n < 256 ^ width ∧ front = integer n := by
  refine (Reads.expect_bind .integer (fun count => Reads.guard <| (reads_take count).bind
    fun contents => (reads_lift (digits contents)).bind fun bytes =>
      Reads.guard (p := width < bytes.length) <| reads_pure (BigEndian.toNat bytes)) ?_).congr
      fun n front rest => ?_
  · rintro count n front rest ⟨-, contents, _, _, rfl, ⟨rfl, hlength⟩, _, _, _, rfl, ⟨-, rfl⟩, -, -,
      rfl⟩
    rw [List.append_nil, List.append_nil, hlength]
  · constructor
    · intro h
      obtain ⟨_, -, rfl, -, contents, _, _, rfl, ⟨rfl, -⟩, bytes, _, _, rfl, ⟨hdigits, rfl⟩,
        hlength, rfl, rfl⟩ := h
      rw [List.append_nil, List.append_nil, integer, integerBytes_toNat_of_digits hdigits]
      exact ⟨Nat.lt_of_lt_of_le (BigEndian.toNat_lt bytes)
        (Nat.pow_le_pow_right (by omega) (Nat.le_of_not_lt hlength)), rfl⟩
    · intro h
      obtain ⟨hn, rfl⟩ := h
      have hshort := BigEndian.length_ofNat_le_iff.2 hn
      have hle := length_integerBytes_le n
      refine ⟨integerBytes n, by omega, rfl, by omega, _, integerBytes n, [],
        (List.append_nil _).symm, ⟨rfl, rfl⟩, _, [], [], rfl, ⟨digits_integerBytes n, rfl⟩, ?_,
        (toNat_digits n).symm, rfl⟩
      split
      · simp only [List.length_singleton]
        omega
      · omega

end Reader

end SealedKey.Der
