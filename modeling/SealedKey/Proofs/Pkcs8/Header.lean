import SealedKey.Proofs.Pkcs8.Layout

/-!
# The first bytes of private key documents

A private key document begins with its own tag and length, the version, and the tag of the
algorithm.  So its first six bytes are known from the length of its contents and the version
(`PrivateKeyInfo.take_encodeWith`).  If it is only known that the document fits into so many
blocks, there are a few possibilities (`PrivateKeyInfo.take_mem_headers`), and all other byte
strings of this size are no private key documents.
-/

namespace SealedKey.Pkcs8.PrivateKeyInfo

open Der

/-- The first bytes of a document with contents of `length` bytes. -/
def header (length version : Nat) : Bytes :=
  (Tag.sequence.byte :: lengthBytes length ++ (Der.integer version ++ [Tag.sequence.byte])).take 6

/-- The headers of the documents of at most sixteen bytes less than `size`. -/
def headers (size : Nat) : List Bytes :=
  (List.range 20).flatMap fun i => [header (size - 3 - i) 0, header (size - 3 - i) 1]

theorem length_headers (size : Nat) : (headers size).length = 40 := rfl

variable {info : PrivateKeyInfo}

theorem length_integer_version {version : Nat} (h : version ≤ 1) :
    (Der.integer version).length = 3 := by
  rcases Nat.le_one_iff_eq_zero_or_eq_one.1 h with rfl | rfl
  · decide
  · decide

theorem le_length_header (length : Nat) {version : Nat} (h : version ≤ 1) :
    6 ≤ (Tag.sequence.byte :: lengthBytes length ++
      (Der.integer version ++ [Tag.sequence.byte])).length := by
  have hinteger := length_integer_version h
  have hpos := length_lengthBytes_pos length
  simp only [List.length_append, List.length_cons, List.length_nil, hinteger]
  omega

theorem length_of_mem_headers {size : Nat} {bytes : Bytes} (h : bytes ∈ headers size) :
    bytes.length = 6 := by
  obtain ⟨i, -, hbytes⟩ := List.mem_flatMap.1 h
  simp only [List.mem_cons, List.not_mem_nil, or_false] at hbytes
  rcases hbytes with rfl | rfl
  · exact List.length_take_of_le (le_length_header _ (Nat.zero_le 1))
  · exact List.length_take_of_le (le_length_header _ (Nat.le_refl 1))

theorem exists_contentsWith_eq (info : PrivateKeyInfo) (surplus : Surplus) : ∃ rest,
    info.contentsWith surplus = Der.integer info.version ++ [Tag.sequence.byte] ++ rest := by
  rw [contentsWith, AlgorithmIdentifier.encode_eq, element]
  exact ⟨_, (List.append_assoc _ [Tag.sequence.byte] _).symm⟩

theorem take_encodeWith (info : PrivateKeyInfo) (surplus : Surplus) :
    (info.encodeWith surplus).take 6 = header (info.contentsWith surplus).length info.version := by
  obtain ⟨rest, hrest⟩ := info.exists_contentsWith_eq surplus
  have hdocument : info.encodeWith surplus = Tag.sequence.byte ::
      lengthBytes (info.contentsWith surplus).length ++
        (Der.integer info.version ++ [Tag.sequence.byte]) ++ rest :=
    (congrArg (_ ++ ·) hrest).trans (List.append_assoc _ _ _).symm
  rw [hdocument, header, List.take_append_of_le_length (le_length_header _ info.version_le)]

/-- A private key document that is one to sixteen bytes shorter than `size` has one of the headers
for it. -/
theorem take_mem_headers {document : Bytes} {size : Nat} (h : ofDer document = .ok info)
    (hlt : document.length < size) (hle : size ≤ document.length + 16) :
    document.take 6 ∈ headers size := by
  obtain ⟨hmax, -, surplus, -, rfl⟩ := ofDer_eq_ok_iff.1 h
  have hlength : (info.encodeWith surplus).length =
      1 + (lengthBytes (info.contentsWith surplus).length).length +
        (info.contentsWith surplus).length := length_element _ _
  have hpos := length_lengthBytes_pos (info.contentsWith surplus).length
  have hshort := length_lengthBytes_le (n := (info.contentsWith surplus).length) (by omega)
  refine List.mem_flatMap.2 ⟨size - 3 - (info.contentsWith surplus).length,
    List.mem_range.2 (by omega), ?_⟩
  have hcontents : size - 3 - (size - 3 - (info.contentsWith surplus).length) =
      (info.contentsWith surplus).length := by omega
  rw [take_encodeWith, hcontents]
  rcases Nat.le_one_iff_eq_zero_or_eq_one.1 info.version_le with hversion | hversion
  · rw [hversion]
    exact List.mem_cons_self
  · rw [hversion]
    exact List.mem_cons_of_mem _ List.mem_cons_self

end SealedKey.Pkcs8.PrivateKeyInfo
