import SealedKey.Base64
import SealedKey.Proofs.Bytes
import SealedKey.Text.WhiteSpace
import Mathlib.Data.List.Basic

/-!
# Base64 decoding undoes encoding

`Base64.decode_encode` says that the strict decoder accepts what the encoder writes, for byte
strings of any length, and gives the bytes back.

* `join_split` is the law of the two regroupings: bytes to sextets and back.  The facts about
  single bytes under it are linear arithmetic.
* `symbol_facts` collects what is checked for each of the 64 symbols.
* The decoder looks at the last four symbols apart from those before them, so the proof cuts the
  encoded text there (`sextets_map` for the front, `lastSextets_encode` for the last group).
-/

namespace SealedKey.Base64

/-! ## Sextets and bytes -/

theorem split.go_eq (done : List UInt8) (bytes : Bytes) :
    split.go done bytes = done.reverse ++ split.go [] bytes := by
  match bytes with
  | a :: b :: c :: rest =>
    rw [split.go, split.go_eq _ rest, split.go, split.go_eq [_, _, _, _] rest]
    simp
  | [a, b] => simp [split.go]
  | [a] => simp [split.go]
  | [] => simp [split.go]

theorem split_cons₃ (a b c : UInt8) (rest : Bytes) :
    split (a :: b :: c :: rest) =
      a / 4 :: (a % 4 * 16 + b / 16) :: (b % 16 * 4 + c / 64) :: c % 64 :: split rest := by
  rw [split, split.go, split.go_eq]
  rfl

theorem join.go_eq (done : Bytes) (sextets : List UInt8) :
    join.go done sextets = done.reverse ++ join.go [] sextets := by
  match sextets with
  | a :: b :: c :: d :: rest =>
    rw [join.go, join.go_eq _ rest, join.go, join.go_eq [_, _, _] rest]
    simp
  | [a, b, c] => simp [join.go]
  | [a, b] => simp [join.go]
  | [a] => simp [join.go]
  | [] => simp [join.go]

theorem join_cons₄ (a b c d : UInt8) (rest : List UInt8) :
    join (a :: b :: c :: d :: rest) =
      (a * 4 + b / 16) :: (b % 16 * 16 + c / 4) :: (c % 4 * 64 + d) :: join rest := by
  rw [join, join.go, join.go_eq]
  rfl

theorem first_byte (a b : UInt8) : a / 4 * 4 + (a % 4 * 16 + b / 16) / 16 = a := by
  apply UInt8.toNat_inj.1
  have := a.toNat_lt
  have := b.toNat_lt
  simp only [UInt8.toNat_add, UInt8.toNat_mul, UInt8.toNat_div, UInt8.toNat_mod, UInt8.reduceToNat]
  omega

theorem second_byte (a b c : UInt8) :
    (a % 4 * 16 + b / 16) % 16 * 16 + (b % 16 * 4 + c / 64) / 4 = b := by
  apply UInt8.toNat_inj.1
  have := a.toNat_lt
  have := b.toNat_lt
  have := c.toNat_lt
  simp only [UInt8.toNat_add, UInt8.toNat_mul, UInt8.toNat_div, UInt8.toNat_mod, UInt8.reduceToNat]
  omega

theorem third_byte (b c : UInt8) : (b % 16 * 4 + c / 64) % 4 * 64 + c % 64 = c := by
  apply UInt8.toNat_inj.1
  have := b.toNat_lt
  have := c.toNat_lt
  simp only [UInt8.toNat_add, UInt8.toNat_mul, UInt8.toNat_div, UInt8.toNat_mod, UInt8.reduceToNat]
  omega

/-- Regrouping bits into sextets and back changes nothing. -/
theorem join_split (bytes : Bytes) : join (split bytes) = bytes := by
  match bytes with
  | a :: b :: c :: rest =>
    rw [split_cons₃, join_cons₄, join_split rest, first_byte, second_byte, third_byte]
  | [a, b] =>
    have h₁ := first_byte a b
    have h₂ := second_byte a b 0
    simp only [UInt8.zero_div, UInt8.add_zero] at h₂
    simp [split, split.go, join, join.go, h₁, h₂]
  | [a] =>
    have h₁ := first_byte a 0
    simp only [UInt8.zero_div, UInt8.add_zero] at h₁
    simp [split, split.go, join, join.go, h₁]
  | [] => rfl

theorem first_sextet_lt (a : UInt8) : a / 4 < 64 := by
  have := a.toNat_lt
  simp only [UInt8.lt_iff_toNat_lt, UInt8.toNat_div, UInt8.reduceToNat]
  omega

theorem middle_sextet_lt (a b : UInt8) : a % 4 * 16 + b / 16 < 64 := by
  have := b.toNat_lt
  simp only [UInt8.lt_iff_toNat_lt, UInt8.toNat_add, UInt8.toNat_mul, UInt8.toNat_div,
    UInt8.toNat_mod, UInt8.reduceToNat]
  omega

theorem middle_sextet_lt' (b c : UInt8) : b % 16 * 4 + c / 64 < 64 := by
  have := c.toNat_lt
  simp only [UInt8.lt_iff_toNat_lt, UInt8.toNat_add, UInt8.toNat_mul, UInt8.toNat_div,
    UInt8.toNat_mod, UInt8.reduceToNat]
  omega

theorem last_sextet_lt (c : UInt8) : c % 64 < 64 := by
  simp only [UInt8.lt_iff_toNat_lt, UInt8.toNat_mod, UInt8.reduceToNat]
  omega

theorem split_lt (bytes : Bytes) : ∀ s ∈ split bytes, s < 64 := by
  match bytes with
  | a :: b :: c :: rest =>
    rw [split_cons₃]
    simp only [List.forall_mem_cons]
    exact ⟨first_sextet_lt a, middle_sextet_lt a b, middle_sextet_lt' b c, last_sextet_lt c,
      split_lt rest⟩
  | [a, b] =>
    have h := middle_sextet_lt' b 0
    simp only [UInt8.zero_div, UInt8.add_zero] at h
    simpa [split, split.go] using ⟨first_sextet_lt a, middle_sextet_lt a b, h⟩
  | [a] =>
    have h := middle_sextet_lt a 0
    simp only [UInt8.zero_div, UInt8.add_zero] at h
    simpa [split, split.go] using ⟨first_sextet_lt a, h⟩
  | [] => simp [split, split.go]

/-- The number of padding symbols for a text of `length` bytes. -/
def padCount (length : Nat) : Nat := (3 - length % 3) % 3

theorem padCount_le (length : Nat) : padCount length ≤ 2 := by
  unfold padCount
  omega

/-- Symbols and padding fill whole groups of four. -/
theorem length_split_add_padCount (bytes : Bytes) :
    (split bytes).length + padCount bytes.length = 4 * ((bytes.length + 2) / 3) := by
  match bytes with
  | a :: b :: c :: rest =>
    have ih := length_split_add_padCount rest
    simp only [split_cons₃, List.length_cons, padCount] at ih ⊢
    omega
  | [a, b] => simp [split, split.go, padCount]
  | [a] => simp [split, split.go, padCount]
  | [] => rfl

/-- Behind whole groups of three bytes, the sextets start anew. -/
theorem split_append {front : Bytes} (h : front.length % 3 = 0) (back : Bytes) :
    split (front ++ back) = split front ++ split back := by
  match front with
  | a :: b :: c :: rest =>
    have hrest : rest.length % 3 = 0 := by
      simp only [List.length_cons] at h
      omega
    simp only [List.cons_append, split_cons₃, split_append hrest]
  | [a, b] => simp at h
  | [a] => simp at h
  | [] => rfl

/-- The bits that the last sextet does not need are zero. -/
theorem spareBits_split {bytes : Bytes} {last : UInt8} (h : (split bytes).getLast? = some last) :
    spareBits (split bytes).length last = 0 := by
  match bytes with
  | a :: b :: c :: rest =>
    rw [split_cons₃] at h ⊢
    by_cases hrest : split rest = []
    · simp [hrest, spareBits]
    · have hlast : (split rest).getLast? = some last := by
        rw [← h]
        simp [List.getLast?_cons_of_ne_nil, hrest]
      have ih := spareBits_split hlast
      simpa [spareBits, Nat.add_assoc] using ih
  | [a, b] =>
    have hlast : last = b % 16 * 4 := by simpa [split, split.go] using h.symm
    have : b % 16 * 4 % 4 = 0 := by
      apply UInt8.toNat_inj.1
      simp only [UInt8.toNat_mul, UInt8.toNat_mod, UInt8.reduceToNat]
      omega
    simpa [split, split.go, spareBits, hlast] using this
  | [a] =>
    have hlast : last = a % 4 * 16 := by simpa [split, split.go] using h.symm
    have : a % 4 * 16 % 16 = 0 := by
      apply UInt8.toNat_inj.1
      simp only [UInt8.toNat_mul, UInt8.toNat_mod, UInt8.reduceToNat]
      omega
    simpa [split, split.go, spareBits, hlast] using this
  | [] => simp [split, split.go] at h

/-! ## Symbols -/

/-- The byte of the symbol of a sextet. -/
def symbolByte (sextet : UInt8) : UInt8 := UInt8.ofNat (symbol sextet).toNat

/-- A letter, a digit or one of the two signs that stand for the last sextets. -/
def IsSymbol (c : Char) : Prop :=
  c.isAlphanum = true ∨ c = '+' ∨ c = '/'

instance (c : Char) : Decidable (IsSymbol c) :=
  inferInstanceAs (Decidable (_ ∨ _ ∨ _))

/-- What is to be known of the 64 symbols: each is one byte, which stands for its sextet, and
none is a blank or a dash. -/
theorem symbol_facts (s : UInt8) : s < 64 →
    sextet? (symbolByte s) = some s ∧ String.utf8EncodeChar (symbol s) = [symbolByte s] ∧
      Text.isWhiteSpace (symbol s) = false ∧ symbol s ≠ '-' ∧ IsSymbol (symbol s) := by
  revert s
  refine forall_byte ?_
  decide +kernel

theorem sextet?_symbolByte {s : UInt8} (h : s < 64) : sextet? (symbolByte s) = some s :=
  (symbol_facts s h).1

theorem sextet?_pad : sextet? pad = none := by decide

theorem symbolByte_ne_pad {s : UInt8} (h : s < 64) : symbolByte s ≠ pad := by
  intro hpad
  have := sextet?_symbolByte h
  simp [hpad, sextet?_pad] at this

theorem ofChars_map_symbol {xs : List UInt8} (h : ∀ s ∈ xs, s < 64) :
    Bytes.ofChars (xs.map symbol) = xs.map symbolByte := by
  induction xs with
  | nil => rfl
  | cons s xs ih =>
    simp only [List.forall_mem_cons] at h
    have hs := (symbol_facts s h.1).2.1
    have ih := ih h.2
    simp only [Bytes.ofChars] at ih ⊢
    rw [List.map_cons, List.flatMap_cons, hs, ih]
    rfl

theorem ofChars_replicate_pad (n : Nat) :
    Bytes.ofChars (List.replicate n '=') = List.replicate n pad := by
  induction n with
  | zero => rfl
  | succ n ih =>
    simp only [Bytes.ofChars] at ih ⊢
    rw [List.replicate_succ, List.flatMap_cons, ih]
    rfl

/-- An encoded text has symbols and padding only. -/
theorem forall_mem_encode {p : Char → Prop} (hsymbol : ∀ s < 64, p (symbol s)) (hpad : p '=')
    (bytes : Bytes) : ∀ c ∈ encode bytes, p c := by
  intro c hc
  rw [encode, encodeUnpadded, List.mem_append, List.mem_map, List.mem_replicate] at hc
  rcases hc with ⟨s, hs, rfl⟩ | ⟨-, rfl⟩
  · exact hsymbol s (split_lt bytes s hs)
  · exact hpad

theorem isWhiteSpace_of_mem_encode {c : Char} {bytes : Bytes} (h : c ∈ encode bytes) :
    Text.isWhiteSpace c = false :=
  forall_mem_encode (p := fun c => Text.isWhiteSpace c = false)
    (fun s hs => (symbol_facts s hs).2.2.1) (by decide) bytes c h

theorem ne_dash_of_mem_encode {c : Char} {bytes : Bytes} (h : c ∈ encode bytes) : c ≠ '-' :=
  forall_mem_encode (p := (· ≠ '-')) (fun s hs => (symbol_facts s hs).2.2.2.1) (by decide) bytes c h

/-- Symbols and padding make four characters for each group of three bytes that was begun. -/
theorem length_encode (bytes : Bytes) : (encode bytes).length = 4 * ((bytes.length + 2) / 3) := by
  rw [← length_split_add_padCount, encode, encodeUnpadded, List.length_append, List.length_map,
    List.length_replicate, padCount]

/-- Padding stands only at the end, and there are no more than two of its signs. -/
theorem exists_encode_eq_append (bytes : Bytes) : ∃ symbols count,
    encode bytes = symbols ++ List.replicate count '=' ∧ count ≤ 2 ∧
      ∀ c ∈ symbols, IsSymbol c := by
  refine ⟨encodeUnpadded bytes, padCount bytes.length, rfl, padCount_le _, fun c hc => ?_⟩
  obtain ⟨s, hs, rfl⟩ := List.mem_map.1 hc
  exact (symbol_facts s (split_lt bytes s hs)).2.2.2.2

/-- Whole groups of three bytes can be encoded by themselves. -/
theorem encode_append {front : Bytes} (h : front.length % 3 = 0) (back : Bytes) :
    encode (front ++ back) = encode front ++ encode back := by
  have hfront : (3 - front.length % 3) % 3 = 0 := by omega
  have hback : (3 - (front.length + back.length) % 3) % 3 = (3 - back.length % 3) % 3 := by omega
  rw [encode, encode, encode, encodeUnpadded, encodeUnpadded, encodeUnpadded, split_append h,
    List.map_append, List.length_append, hfront, hback, List.replicate_zero, List.append_nil,
    List.append_assoc]

/-- The bytes of the encoded text: symbols, then padding. -/
theorem ofChars_encode (bytes : Bytes) :
    Bytes.ofChars (encode bytes) =
      (split bytes).map symbolByte ++ List.replicate (padCount bytes.length) pad := by
  rw [encode, encodeUnpadded, Bytes.ofChars_append, ofChars_map_symbol (split_lt bytes), padCount,
    ofChars_replicate_pad]

/-! ## Decoding -/

/-- A text of symbols is read sextet by sextet. -/
theorem sextets_map {xs : List UInt8} (h : ∀ s ∈ xs, s < 64) (offset : Nat) :
    sextets offset (xs.map symbolByte) = .ok xs := by
  have hvalues : (xs.map symbolByte).filterMap sextet? = xs := by
    rw [List.filterMap_map]
    calc xs.filterMap (sextet? ∘ symbolByte)
        = xs.filterMap some :=
          List.filterMap_congr fun s hs => sextet?_symbolByte (h s hs)
      _ = xs := List.filterMap_some
  unfold sextets
  split
  · -- a byte that is not the one of a symbol would be the one of a symbol
    rename_i byte place hfind
    obtain ⟨s, hs, rfl⟩ := List.mem_map.1
      (List.fst_mem_of_mem_zipIdx (List.mem_of_find?_eq_some hfind))
    have hnone := List.find?_some hfind
    simp [sextet?_symbolByte (h s hs)] at hnone
  · rw [hvalues]
    rfl

/-- The last group, with at most two places of padding, is read as its symbols. -/
theorem lastSextets_map {xs : List UInt8} {padding : Nat} (h : ∀ s ∈ xs, s < 64)
    (hlength : xs.length + padding = 4) (hpadding : padding ≤ 2)
    (hspare : ∀ last, xs.getLast? = some last → spareBits xs.length last = 0) (offset : Nat) :
    lastSextets offset (xs.map symbolByte ++ List.replicate padding pad) = .ok xs := by
  have hsymbol : ∀ byte ∈ xs.map symbolByte, decide (byte ≠ pad) = true := by
    intro byte hbyte
    obtain ⟨s, hs, rfl⟩ := List.mem_map.1 hbyte
    simpa using symbolByte_ne_pad (h s hs)
  have htake : (xs.map symbolByte ++ List.replicate padding pad).takeWhile (· ≠ pad) =
      xs.map symbolByte := by
    rw [List.takeWhile_append_of_pos hsymbol]
    cases padding <;> simp [List.replicate_succ]
  have hdrop : (xs.map symbolByte ++ List.replicate padding pad).dropWhile (· ≠ pad) =
      List.replicate padding pad := by
    rw [List.dropWhile_append_of_pos hsymbol]
    cases padding <;> simp [List.replicate_succ]
  have hany : (List.replicate padding pad).any (· ≠ pad) = false := by
    simp
  have hlast : xs ≠ [] := by
    rintro rfl
    simp at hlength
    omega
  obtain ⟨last, hlast⟩ : ∃ last, xs.getLast? = some last :=
    ⟨xs.getLast hlast, List.getLast?_eq_some_getLast hlast⟩
  have hspare := hspare last hlast
  have htwo : ¬ xs.length < 2 := by omega
  simp only [lastSextets, htake, hdrop, hany, sextets_map h, List.length_map,
    List.length_replicate, hlength, List.getLast?_map, hlast]
  simp [htwo, hlast, hspare, bind, Except.bind, pure, Except.pure]

/-- A text of whole groups is read in two pieces: the groups before the last one, and the last. -/
theorem decode_append {front group values last : List UInt8} (hwhole : front.length % 4 = 0)
    (hgroup : group.length = 4) (hfront : sextets 0 front = .ok values)
    (hlast : lastSextets front.length group = .ok last) :
    decode (front ++ group) = .ok (join (values ++ last)) := by
  have hlength : (front ++ group).length = front.length + 4 := by
    rw [List.length_append, hgroup]
  have hne : front ++ group ≠ [] := by
    intro hnil
    simp [hnil] at hlength
  have hstray : checkStray (front ++ group) = .ok () := by
    unfold checkStray
    split
    · rfl
    · rw [if_neg]
      · rfl
      · omega
  have hoffset : lastGroup (front ++ group).length = front.length := by
    rw [lastGroup, hlength, if_pos (by omega)]
    omega
  simp only [decode, hstray, hoffset, List.take_left, List.drop_left, hfront, hlast]
  simp [hne, bind, Except.bind, pure, Except.pure]

/-- The sextets of a text that is not empty, with those of the last group apart. -/
theorem exists_split_eq_append {bytes : Bytes} (h : bytes ≠ []) :
    ∃ front xs, split bytes = front ++ xs ∧ front.length % 4 = 0 ∧
      xs.length + padCount bytes.length = 4 := by
  have hpos : 0 < bytes.length := List.length_pos_iff.2 h
  have hlength := length_split_add_padCount bytes
  have hpad := padCount_le bytes.length
  refine ⟨(split bytes).take ((split bytes).length + padCount bytes.length - 4),
    (split bytes).drop ((split bytes).length + padCount bytes.length - 4), ?_, ?_, ?_⟩
  · rw [List.take_append_drop]
  · rw [List.length_take_of_le (by omega)]
    omega
  · rw [List.length_drop]
    omega

/-- Decoding gives back what was encoded. -/
theorem decode_encode (bytes : Bytes) : decode (Bytes.ofChars (encode bytes)) = .ok bytes := by
  by_cases hempty : bytes = []
  · subst hempty
    rfl
  obtain ⟨front, xs, hsplit, hwhole, hgroup⟩ := exists_split_eq_append hempty
  have hlt := split_lt bytes
  rw [hsplit] at hlt
  have hfront : ∀ s ∈ front, s < 64 := fun s hs => hlt s (List.mem_append_left xs hs)
  have hxs : ∀ s ∈ xs, s < 64 := fun s hs => hlt s (List.mem_append_right front hs)
  have hspare : ∀ last, xs.getLast? = some last → spareBits xs.length last = 0 := by
    intro last hlast
    have hspare : spareBits (split bytes).length last = 0 :=
      spareBits_split (by rw [hsplit, List.getLast?_append, hlast]; rfl)
    -- the front has whole groups, so the last group has the same spare bits
    have hmod : (split bytes).length % 4 = xs.length % 4 := by
      rw [hsplit, List.length_append]
      omega
    rwa [spareBits, hmod, ← spareBits] at hspare
  have hlast := lastSextets_map hxs hgroup (padCount_le bytes.length) hspare front.length
  have hdecode : decode (front.map symbolByte ++
      (xs.map symbolByte ++ List.replicate (padCount bytes.length) pad)) =
        .ok (join (front ++ xs)) :=
    decode_append (by simpa using hwhole) (by simpa using hgroup) (sextets_map hfront 0)
      (by simpa using hlast)
  rw [ofChars_encode, hsplit, List.map_append, List.append_assoc, hdecode, ← hsplit, join_split]

end SealedKey.Base64
