import SealedKey.Proofs.Der.Elements
import Mathlib.Order.Fin.Basic

/-!
# What the readers of optional fields accept

An optional field is there if its tag comes next (`Begins`).  A field with a number may have
fields with smaller numbers before it, which its reader skips (`Skipped`).  The fields behind the
last one that is known are a list (`Fields`), each of them an `Extension`.
-/

namespace SealedKey.Der

/-- Bytes that start with this tag. -/
def Begins (tag : Tag) (bytes : Bytes) : Prop :=
  ∃ rest, bytes = tag.byte :: rest

/-- Bytes that are empty or start with another tag for which `p` holds. -/
def BeginsElse (p : Tag → Prop) (bytes : Bytes) : Prop :=
  bytes = [] ∨ ∃ tag, p tag ∧ Begins tag bytes

/-- A field that a field with this number can have before it. -/
def Skips (number : Fin 31) (e : Element) : Prop :=
  e.contents.length ≤ maxLength ∧
    ∃ constructed next, e.tag = .numbered .contextSpecific constructed next ∧ next < number

/-- A tag that no field with this number or a smaller one has. -/
def Passes (number : Fin 31) (tag : Tag) : Prop :=
  ∀ constructed next, tag = .numbered .contextSpecific constructed next → number < next

/-- An element in a field that has a number. -/
structure Extension where
  number : Fin 31
  element : Element

/-- The DER form of a field. -/
def Extension.encode (e : Extension) : Bytes :=
  Der.element (.explicit e.number) e.element.encode

theorem begins_element (tag : Tag) (contents rest : Bytes) :
    Begins tag (element tag contents ++ rest) :=
  ⟨_, rfl⟩

theorem Begins.tag_eq {tag tag' : Tag} {bytes : Bytes} (h : Begins tag bytes)
    (h' : Begins tag' bytes) : tag = tag' := by
  obtain ⟨rest, rfl⟩ := h
  obtain ⟨rest', h'⟩ := h'
  exact Tag.byte_injective (List.cons.inj h').1

namespace Reader

variable {α : Type}

/-- The tag that comes next: no tag at the end, and no other byte. -/
theorem reads_peekTag? : Reads peekTag? fun tag? front rest => front = [] ∧
    (tag? = none ∧ rest = [] ∨ ∃ tag, tag? = some tag ∧ Begins tag rest) := by
  rintro ⟨offset, bytes⟩ tag? stop
  have hstay (next? : Option Tag) :
      Except.ok (next?, (⟨offset, bytes⟩ : Cursor)) = (.ok (tag?, stop) : Except Error _) ↔
        next? = tag? ∧ bytes = stop.rest ∧ stop.offset = offset := by
    cases stop
    simp only [Except.ok.injEq, Prod.mk.injEq, Cursor.mk.injEq]
    exact and_congr_right fun _ => ⟨fun h => ⟨h.2, h.1.symm⟩, fun h => ⟨h.2.symm, h.1⟩⟩
  cases bytes with
  | nil =>
    refine (hstay none).trans ⟨?_, ?_⟩
    · intro hform
      obtain ⟨rfl, hrest, hoffset⟩ := hform
      exact ⟨[], ⟨rfl, .inl ⟨rfl, hrest.symm⟩⟩, hrest, hoffset⟩
    · intro hform
      obtain ⟨_, ⟨rfl, ⟨rfl, -⟩ | ⟨tag, -, later, hbegins⟩⟩, hrest, hoffset⟩ := hform
      · exact ⟨rfl, hrest, hoffset⟩
      · rw [hbegins] at hrest
        contradiction
  | cons next later =>
    have hpeek : peekTag? ⟨offset, next :: later⟩ = .ok (tag?, stop) ↔
        ∃ tag, next = tag.byte ∧ some tag = tag? ∧ next :: later = stop.rest ∧
          stop.offset = offset := by
      refine Except.map_eq_ok_iff.trans ?_
      simp only [tagOfByte_eq_ok_iff, ← hstay, Except.ok.injEq]
    refine hpeek.trans ⟨?_, ?_⟩
    · intro hform
      obtain ⟨tag, rfl, rfl, hrest, hoffset⟩ := hform
      exact ⟨[], ⟨rfl, .inr ⟨tag, rfl, later, hrest.symm⟩⟩, hrest, hoffset⟩
    · intro hform
      obtain ⟨_, ⟨rfl, ⟨-, hend⟩ | ⟨tag, rfl, later', hbegins⟩⟩, hrest, hoffset⟩ := hform
      · rw [hend] at hrest
        contradiction
      · have hcons : next :: later = tag.byte :: later' := hrest.trans hbegins
        exact ⟨tag, (List.cons.inj hcons).1, rfl, hrest, hoffset⟩

theorem Reads.optional {read : Reader α} {form : α → Bytes → Bytes → Prop} (h : Reads read form)
    (tag : Tag) :
    Reads (optional tag read) fun value? front rest =>
      value? = none ∧ front = [] ∧ BeginsElse (· ≠ tag) rest ∨
        ∃ value, value? = some value ∧ Begins tag (front ++ rest) ∧ form value front rest := by
  refine (reads_peekTag?.bind fun tag? => (h.bind fun value => reads_pure (some value)).ite
    (p := tag? = some tag) <| reads_pure none).congr fun value? front rest => ?_
  constructor
  · intro hform
    obtain ⟨tag?, _, b, rfl, ⟨rfl, hnext⟩, ⟨rfl, value, _, _, rfl, hvalue, rfl, rfl⟩ |
      ⟨htag, rfl, rfl⟩⟩ := hform
    · obtain ⟨⟨⟩, -⟩ | ⟨_, ⟨⟩, hbegins⟩ := hnext
      rw [List.nil_append, List.append_nil] at *
      exact .inr ⟨value, rfl, hbegins, hvalue⟩
    · refine .inl ⟨rfl, rfl, ?_⟩
      obtain ⟨-, hend⟩ | ⟨tag', rfl, hbegins⟩ := hnext
      · exact .inl hend
      · exact .inr ⟨tag', fun h => htag (by rw [h]), hbegins⟩
  · intro hform
    obtain ⟨rfl, rfl, hend | ⟨tag', htag, hbegins⟩⟩ | ⟨value, rfl, hbegins, hvalue⟩ := hform
    · exact ⟨none, [], [], rfl, ⟨rfl, .inl ⟨rfl, hend⟩⟩, .inr ⟨nofun, rfl, rfl⟩⟩
    · exact ⟨some tag', [], [], rfl, ⟨rfl, .inr ⟨tag', rfl, hbegins⟩⟩,
        .inr ⟨fun h => htag (Option.some.inj h), rfl, rfl⟩⟩
    · exact ⟨some tag, [], front, rfl, ⟨rfl, .inr ⟨tag, rfl, hbegins⟩⟩,
        .inl ⟨rfl, value, front, [], (List.append_nil _).symm, hvalue, rfl, rfl⟩⟩

/-- An optional value that is read by its own DER form. -/
theorem Reads.optional_elim {read : Reader α} {p : α → Prop} {encode : α → Bytes} {tag : Tag}
    (h : Reads read fun value front _ => p value ∧ front = encode value)
    (hbegins : ∀ value rest, Begins tag (encode value ++ rest)) :
    Reads (Reader.optional tag read) fun value? front rest => (∀ value ∈ value?, p value) ∧
      front = value?.elim [] encode ∧ (value? = none → BeginsElse (· ≠ tag) rest) := by
  refine (h.optional tag).congr fun value? front rest => ?_
  constructor
  · intro hform
    obtain ⟨rfl, rfl, hrest⟩ | ⟨value, rfl, -, hvalue, rfl⟩ := hform
    · exact ⟨nofun, rfl, fun _ => hrest⟩
    · refine ⟨?_, rfl, nofun⟩
      rintro _ ⟨⟩
      exact hvalue
  · intro hform
    obtain ⟨hvalue, rfl, hrest⟩ := hform
    cases value? with
    | none => exact .inl ⟨rfl, rfl, hrest rfl⟩
    | some value => exact .inr ⟨value, rfl, hbegins value rest, hvalue value rfl, rfl⟩

/-! ## Fields with numbers -/

/-- What a search for a field finds behind the fields that it skips. -/
def Sought (number : Fin 31) (found : Bool) (rest : Bytes) : Prop :=
  if found then ∃ constructed, Begins (.numbered .contextSpecific constructed number) rest
  else BeginsElse (Passes number) rest

/-- What one step of a search reads behind the tag that it looks at, if `form` is what the later
steps read. -/
def StepForm (number : Fin 31) (form : Bool → Bytes → Bytes → Prop) (tag? : Option Tag)
    (found : Bool) (front rest : Bytes) : Prop :=
  (∃ constructed next, tag? = some (.numbered .contextSpecific constructed next) ∧
    (next < number ∧ (∃ (e : Element) (fields : Bytes), e.contents.length ≤ maxLength ∧
        front = e.encode ++ fields ∧ form found fields rest) ∨
      ¬ next < number ∧ found = decide (next = number) ∧ front = [])) ∨
  (∀ constructed next, tag? ≠ some (.numbered .contextSpecific constructed next)) ∧
    found = false ∧ front = []

/-- Behind the tag that it looks at, a step skips the next field if its number is too small. -/
theorem exists_stepForm_iff {number : Fin 31} {form : Bool → Bytes → Bytes → Prop} {found : Bool}
    {front rest : Bytes} :
    (∃ tag? a b, front = a ++ b ∧ (a = [] ∧ (tag? = none ∧ b ++ rest = [] ∨
        ∃ tag, tag? = some tag ∧ Begins tag (b ++ rest))) ∧
      StepForm number form tag? found b rest) ↔
    (∃ (e : Element) (fields : Bytes), Skips number e ∧ front = e.encode ++ fields ∧
      form found fields rest) ∨ front = [] ∧ Sought number found rest := by
  constructor
  · intro hread
    obtain ⟨tag?, _, b, rfl, ⟨rfl, hbegins⟩, hform⟩ := hread
    obtain ⟨constructed, next, rfl, hstep⟩ | ⟨hother, rfl, rfl⟩ := hform
    · obtain ⟨⟨⟩, -⟩ | ⟨_, ⟨⟩, hbegins⟩ := hbegins
      rcases hstep with ⟨hlt, e, fields, hmax, rfl, hform⟩ | ⟨hge, rfl, rfl⟩
      · rw [List.append_assoc] at hbegins
        have htag := (begins_element e.tag e.contents _).tag_eq hbegins
        exact .inl ⟨e, fields, ⟨hmax, constructed, next, htag, hlt⟩, rfl, hform⟩
      · refine .inr ⟨rfl, ?_⟩
        by_cases heq : next = number
        · subst heq
          rw [decide_eq_true rfl]
          exact ⟨constructed, hbegins⟩
        · rw [decide_eq_false heq]
          refine .inr ⟨_, ?_, hbegins⟩
          rintro _ _ ⟨⟩
          exact lt_of_le_of_ne (not_lt.1 hge) (Ne.symm heq)
    · refine .inr ⟨rfl, ?_⟩
      obtain ⟨-, hend⟩ | ⟨tag, rfl, hbegins⟩ := hbegins
      · exact .inl hend
      · exact .inr ⟨tag, fun constructed next h => absurd (congrArg some h) (hother _ _), hbegins⟩
  · intro hread
    obtain ⟨e, fields, ⟨hmax, constructed, next, htag, hlt⟩, rfl, hform⟩ | ⟨rfl, hsought⟩ := hread
    · refine ⟨some e.tag, [], e.encode ++ fields, rfl, ⟨rfl, .inr ⟨_, rfl, ?_⟩⟩,
        .inl ⟨constructed, next, congrArg some htag, .inl ⟨hlt, e, fields, hmax, rfl, hform⟩⟩⟩
      rw [List.append_assoc]
      exact begins_element e.tag e.contents _
    · cases found with
      | true =>
        obtain ⟨constructed, hbegins⟩ := hsought
        exact ⟨_, [], [], rfl, ⟨rfl, .inr ⟨_, rfl, hbegins⟩⟩, .inl ⟨constructed, number, rfl,
          .inr ⟨lt_irrefl number, (decide_eq_true rfl).symm, rfl⟩⟩⟩
      | false =>
        obtain hend | ⟨tag, hpasses, hbegins⟩ := hsought
        · exact ⟨none, [], [], rfl, ⟨rfl, .inl ⟨rfl, hend⟩⟩, .inr ⟨nofun, rfl, rfl⟩⟩
        · refine ⟨some tag, [], [], rfl, ⟨rfl, .inr ⟨tag, rfl, hbegins⟩⟩, ?_⟩
          by_cases hnumbered : ∃ constructed next,
              tag = .numbered .contextSpecific constructed next
          · obtain ⟨constructed, next, rfl⟩ := hnumbered
            have hlt := hpasses constructed next rfl
            exact .inl ⟨constructed, next, rfl, .inr ⟨lt_asymm hlt,
              (decide_eq_false (ne_of_gt hlt)).symm, rfl⟩⟩
          · exact .inr ⟨fun constructed next h =>
              hnumbered ⟨constructed, next, Option.some.inj h⟩, rfl, rfl⟩

/-- One step of a search. -/
theorem reads_seek_step {number : Fin 31} {fuel : Nat} {form : Bool → Bytes → Bytes → Prop}
    (h : Reads (seek.go number fuel) form) :
    Reads (seek.go number (fuel + 1)) fun found front rest =>
      (∃ (e : Element) (fields : Bytes), Skips number e ∧ front = e.encode ++ fields ∧
        form found fields rest) ∨ front = [] ∧ Sought number found rest := by
  unfold seek.go
  refine (reads_peekTag?.bind fun tag? =>
    (?_ : Reads _ (StepForm number form tag?))).congr fun _ _ _ => exists_stepForm_iff
  split
  · rename_i constructed next
    refine ((reads_any.bind fun _ => h).ite (reads_pure _)).congr fun found front rest => ?_
    constructor
    · intro hread
      obtain ⟨hlt, e, _, fields, rfl, ⟨hmax, rfl⟩, hform⟩ | hge := hread
      · exact .inl ⟨constructed, next, rfl, .inl ⟨hlt, e, fields, hmax, rfl, hform⟩⟩
      · exact .inl ⟨constructed, next, rfl, .inr hge⟩
    · intro hread
      obtain ⟨_, _, ⟨⟩, ⟨hlt, e, fields, hmax, rfl, hform⟩ | hge⟩ | ⟨hother, -⟩ := hread
      · exact .inl ⟨hlt, e, _, fields, rfl, ⟨hmax, rfl⟩, hform⟩
      · exact .inr hge
      · exact absurd rfl (hother constructed next)
  · rename_i hother
    refine (reads_pure false).congr fun found front rest => ?_
    constructor
    · exact fun h => .inr ⟨fun constructed next h => hother constructed next h, h⟩
    · intro hread
      obtain ⟨constructed, next, rfl, -⟩ | ⟨-, h⟩ := hread
      · exact (hother constructed next rfl).elim
      · exact h

/-- A search that stops after `fuel` fields, or before that behind the last one it can skip. -/
theorem reads_seek_go (number : Fin 31) (fuel : Nat) :
    Reads (seek.go number fuel) fun found front rest => ∃ fields : List Element,
      (∀ e ∈ fields, Skips number e) ∧ front = fields.flatMap Element.encode ∧
        (fields.length < fuel ∧ Sought number found rest ∨
          fields.length = fuel ∧ found = false) := by
  induction fuel with
  | zero =>
    refine (reads_pure false).congr fun found front rest => ⟨?_, ?_⟩
    · intro hform
      obtain ⟨rfl, rfl⟩ := hform
      exact ⟨[], nofun, rfl, .inr ⟨rfl, rfl⟩⟩
    · intro hform
      obtain ⟨fields, -, rfl, ⟨⟨⟩, -⟩ | ⟨hlength, rfl⟩⟩ := hform
      rw [List.length_eq_zero_iff.1 hlength]
      exact ⟨rfl, rfl⟩
  | succ fuel ih =>
    refine (reads_seek_step ih).congr fun found front rest => ⟨?_, ?_⟩
    · intro hform
      obtain ⟨e, _, hskip, rfl, fields, hfields, rfl, hsought⟩ | ⟨rfl, hsought⟩ := hform
      · exact ⟨e :: fields, List.forall_mem_cons.2 ⟨hskip, hfields⟩, rfl,
          hsought.imp (And.imp_left Nat.succ_lt_succ) (And.imp_left (congrArg Nat.succ))⟩
      · exact ⟨[], nofun, rfl, .inl ⟨Nat.succ_pos fuel, hsought⟩⟩
    · intro hform
      obtain ⟨fields, hfields, rfl, hsought⟩ := hform
      cases fields with
      | nil => exact .inr ⟨rfl, (hsought.resolve_right fun h => Nat.succ_ne_zero fuel h.1.symm).2⟩
      | cons e fields =>
        obtain ⟨hskip, hfields⟩ := List.forall_mem_cons.1 hfields
        exact .inl ⟨e, _, hskip, rfl, fields, hfields, rfl,
          hsought.imp (And.imp_left Nat.lt_of_succ_lt_succ) (And.imp_left Nat.succ.inj)⟩

theorem length_le_length_flatMap_encode (fields : List Element) :
    fields.length ≤ (fields.flatMap Element.encode).length := by
  induction fields with
  | nil => exact Nat.zero_le _
  | cons e fields ih =>
    have := length_element_pos e.tag e.contents
    rw [List.flatMap_cons, List.length_append, List.length_cons, Element.encode]
    omega

theorem reads_seek (number : Fin 31) : Reads (seek number) fun found front rest =>
    ∃ fields : List Element, (∀ e ∈ fields, Skips number e) ∧
      front = fields.flatMap Element.encode ∧ Sought number found rest := by
  intro start found stop
  show seek.go number start.rest.length start = .ok (found, stop) ↔ _
  rw [reads_seek_go number _ start found stop]
  constructor
  · intro h
    obtain ⟨front, ⟨fields, hfields, hfront, hsought⟩, hstart, hstop⟩ := h
    refine ⟨front, ⟨fields, hfields, hfront, ?_⟩, hstart, hstop⟩
    rcases hsought with ⟨-, hsought⟩ | ⟨hlength, rfl⟩
    · exact hsought
    · -- as many fields as bytes are no fields at all
      have hle := length_le_length_flatMap_encode fields
      rw [← hfront] at hle
      rw [hstart, List.length_append] at hlength
      exact .inl (List.length_eq_zero_iff.1 (by omega))
  · intro h
    obtain ⟨front, ⟨fields, hfields, hfront, hsought⟩, hstart, hstop⟩ := h
    refine ⟨front, ⟨fields, hfields, hfront, ?_⟩, hstart, hstop⟩
    have hle := length_le_length_flatMap_encode fields
    rw [← hfront] at hle
    rcases Nat.lt_or_ge fields.length start.rest.length with hlt | hge
    · exact .inl ⟨hlt, hsought⟩
    · rw [hstart, List.length_append] at hge ⊢
      have hend : stop.rest = [] := List.length_eq_zero_iff.1 (by omega)
      refine .inr ⟨by omega, ?_⟩
      cases found with
      | false => rfl
      | true =>
        obtain ⟨constructed, rest, hbegins⟩ := hsought
        rw [hend] at hbegins
        contradiction

/-- The bytes of an optional field, with those of the fields that are skipped before it. -/
def FieldForm (number : Fin 31) (constructed : Bool) (form : α → Bytes → Prop)
    (value? : Option α) (front rest : Bytes) : Prop :=
  ∃ fields : List Element, (∀ e ∈ fields, Skips number e) ∧
    match value? with
    | none => front = fields.flatMap Element.encode ∧ BeginsElse (Passes number) rest
    | some value => ∃ body, body.length ≤ maxLength ∧ form value body ∧
        front = fields.flatMap Element.encode ++
          element (.numbered .contextSpecific constructed number) body

theorem Reads.field {number : Fin 31} {constructed : Bool} {form : α → Bytes → Prop}
    (next : Tag × Nat → Reader (Option α))
    (h : ∀ head, Reads (next head) fun value? front _ =>
      head.1 = .numbered .contextSpecific constructed number ∧ front.length = head.2 ∧
        ∃ value, value? = some value ∧ form value front) :
    Reads (do if ← seek number then next (← header) else return none)
      (FieldForm number constructed form) := by
  refine ((reads_seek number).bind fun found =>
    (Reads.header_bind h fun _ _ _ _ h => h.2.1).ite (p := found = true) (reads_pure none)).congr
      fun value? front rest => ?_
  constructor
  · intro hform
    obtain ⟨found, _, b, rfl, ⟨fields, hfields, rfl, hsought⟩,
      ⟨rfl, tag, body, hmax, rfl, rfl, -, value, rfl, hvalue⟩ | ⟨hfound, rfl, rfl⟩⟩ := hform
    · exact ⟨fields, hfields, body, hmax, hvalue, rfl⟩
    · rw [Bool.not_eq_true] at hfound
      subst hfound
      exact ⟨fields, hfields, List.append_nil _, hsought⟩
  · intro hform
    obtain ⟨fields, hfields, hvalue⟩ := hform
    cases value? with
    | none =>
      obtain ⟨rfl, hrest⟩ := hvalue
      exact ⟨false, _, [], (List.append_nil _).symm, ⟨fields, hfields, rfl, hrest⟩,
        .inr ⟨nofun, rfl, rfl⟩⟩
    | some value =>
      obtain ⟨body, hmax, hvalue, rfl⟩ := hvalue
      exact ⟨true, _, _, rfl, ⟨fields, hfields, rfl, constructed, begins_element _ _ _⟩,
        .inl ⟨rfl, _, body, hmax, rfl, rfl, rfl, value, rfl, hvalue⟩⟩

/-- The optional field with this number, wrapped around what `read` reads. -/
theorem Reads.explicitField {read : Reader α} {form : α → Bytes → Bytes → Prop}
    (h : Reads read form) (number : Fin 31) :
    Reads (explicitField number read)
      (FieldForm number true fun value body => form value body []) := by
  refine Reads.field (fun head => do
    if head.1 = .explicit number then return some (← nested head.2 read)
    else throw (.unexpectedTag none head.1)) fun head => ?_
  refine (((reads_nested h head.2).bind fun value => reads_pure (some value)).ite
    (reads_throw _)).congr fun value? front rest => ?_
  constructor
  · intro hread
    obtain ⟨htag, value, _, _, rfl, ⟨hform, hlength⟩, rfl, rfl⟩ | ⟨-, ⟨⟩⟩ := hread
    rw [List.append_nil]
    exact ⟨htag, hlength, value, rfl, hform⟩
  · intro hread
    obtain ⟨htag, hlength, value, rfl, hform⟩ := hread
    exact .inl ⟨htag, value, front, [], (List.append_nil _).symm, ⟨hform, hlength⟩, rfl, rfl⟩

/-- The optional field with this number, a bit string. -/
theorem reads_implicitBits (number : Fin 31) :
    Reads (implicitBits number) (FieldForm number false fun bits body =>
      bits.WellFormed ∧ body = bits.contents) := by
  refine Reads.field (fun head => do
    let bits ← bitsOf head.2
    if head.1 = .implicit number then return some bits
    else throw (.nonCanonical head.1)) fun head => ?_
  refine ((reads_bitsOf head.2).bind fun bits => (reads_pure (some bits)).ite
    (reads_throw _)).congr fun value? front rest => ?_
  constructor
  · intro h
    obtain ⟨bits, _, _, rfl, ⟨hform, rfl, hlength⟩, ⟨htag, rfl, rfl⟩ | ⟨-, ⟨⟩⟩⟩ := h
    rw [List.append_nil]
    exact ⟨htag, hlength, bits, rfl, hform, rfl⟩
  · intro h
    obtain ⟨htag, hlength, bits, rfl, hform, rfl⟩ := h
    exact ⟨bits, _, [], (List.append_nil _).symm, ⟨hform, rfl, hlength⟩, .inl ⟨htag, rfl, rfl⟩⟩

/-- The bytes of an optional bit string that fills whole bytes. -/
theorem reads_whole (bits? : Option Bits) :
    Reads (bits?.mapM fun bits => liftM bits.whole) fun bytes? front _ =>
      bits? = bytes?.map (Bits.mk 0) ∧ front = [] := by
  cases bits? with
  | none =>
    refine (reads_pure none).congr fun bytes? front rest => ?_
    cases bytes? <;> simp
  | some bits =>
    refine ((reads_lift bits.whole).bind fun bytes => reads_pure (some bytes)).congr
      fun bytes? front rest => ?_
    simp only [Bits.whole_eq_ok_iff]
    constructor
    · intro h
      obtain ⟨bytes, _, _, rfl, ⟨rfl, rfl⟩, rfl, rfl⟩ := h
      exact ⟨rfl, rfl⟩
    · intro h
      obtain ⟨hbits, rfl⟩ := h
      cases bytes? with
      | none => contradiction
      | some bytes => exact ⟨bytes, [], [], rfl, ⟨Option.some.inj hbits, rfl⟩, rfl, rfl⟩

/-! ## Further fields -/

theorem reads_extension : Reads extension fun e front _ => ∃ number,
    e.contents.length ≤ maxLength ∧ e.encode.length ≤ maxLength ∧
      front = Extension.encode ⟨number, e⟩ := by
  unfold extension
  refine (Reads.header_bind (fun head => (?_ : Reads _ fun e front _ =>
    (∃ number, head.1 = .explicit number) ∧ front.length = head.2 ∧
      e.contents.length ≤ maxLength ∧ front = e.encode)) fun _ _ _ _ h => h.2.1).congr
    fun e front rest => ?_
  · obtain ⟨tag, count⟩ := head
    dsimp only
    split
    · rename_i number
      refine (reads_nested reads_any count).congr fun e front rest => ?_
      constructor
      · intro hform
        obtain ⟨⟨hmax, rfl⟩, hlength⟩ := hform
        exact ⟨⟨number, rfl⟩, hlength, hmax, rfl⟩
      · intro hform
        obtain ⟨-, hlength, hmax, rfl⟩ := hform
        exact ⟨⟨hmax, rfl⟩, hlength⟩
    · rename_i hother
      refine (reads_throw _).congr fun e front rest => iff_of_false id ?_
      intro hform
      obtain ⟨⟨number, h⟩, -⟩ := hform
      exact hother number h
  · constructor
    · intro hform
      obtain ⟨tag, body, hlength, rfl, ⟨number, rfl⟩, -, hmax, rfl⟩ := hform
      exact ⟨number, hmax, hlength, rfl⟩
    · intro hform
      obtain ⟨number, hmax, hlength, rfl⟩ := hform
      exact ⟨.explicit number, e.encode, hlength, rfl, ⟨number, rfl⟩, rfl, hmax, rfl⟩

/-- Values one after the other. -/
def Forms (form : α → Bytes → Bytes → Prop) : List α → Bytes → Bytes → Prop
  | [], front, _ => front = []
  | value :: values, front, rest =>
    ∃ a b, front = a ++ b ∧ form value a (b ++ rest) ∧ Forms form values b rest

theorem length_le_of_forms {form : α → Bytes → Bytes → Prop}
    (hpos : ∀ value front rest, form value front rest → 0 < front.length) {values : List α}
    {front rest : Bytes} (h : Forms form values front rest) : values.length ≤ front.length := by
  induction values generalizing front with
  | nil => exact Nat.zero_le _
  | cons value values ih =>
    obtain ⟨a, b, rfl, hvalue, hvalues⟩ := h
    have hfirst := hpos value a _ hvalue
    have hlater := ih hvalues
    rw [List.length_append, List.length_cons]
    omega

/-- A list that ends after `fuel` values, or before that at the end of the contents. -/
theorem Reads.many_go {read : Reader α} {form : α → Bytes → Bytes → Prop} (h : Reads read form)
    (hpos : ∀ value front rest, form value front rest → 0 < front.length) (fuel : Nat)
    (done : List α) :
    Reads (many.go read fuel done) fun values front rest => ∃ later,
      values = done.reverse ++ later ∧ Forms form later front rest ∧
        (later.length < fuel ∧ rest = [] ∨ later.length = fuel) := by
  induction fuel generalizing done with
  | zero =>
    refine (reads_pure done.reverse).congr fun values front rest => ?_
    constructor
    · intro hform
      obtain ⟨rfl, rfl⟩ := hform
      exact ⟨[], (List.append_nil _).symm, rfl, .inr rfl⟩
    · intro hform
      obtain ⟨later, rfl, hforms, ⟨⟨⟩, -⟩ | hlength⟩ := hform
      rw [List.length_eq_zero_iff.1 hlength] at hforms ⊢
      exact ⟨List.append_nil _, hforms⟩
  | succ fuel ih =>
    refine (reads_atEnd.bind fun ended => (reads_pure done.reverse).ite (p := ended = true) <|
      h.bind fun value => ih (value :: done)).congr fun values front rest => ?_
    constructor
    · intro hform
      obtain ⟨ended, _, _, rfl, ⟨hended, rfl⟩, ⟨rfl, rfl, rfl⟩ |
        ⟨-, value, a, b, rfl, hvalue, later, rfl, hlater, hlength⟩⟩ := hform
      · exact ⟨[], (List.append_nil _).symm, rfl,
          .inl ⟨Nat.succ_pos fuel, List.isEmpty_iff.1 hended.symm⟩⟩
      · exact ⟨value :: later, by simp, ⟨a, b, rfl, hvalue, hlater⟩,
          hlength.imp (And.imp_left Nat.succ_lt_succ) (congrArg Nat.succ)⟩
    · intro hform
      obtain ⟨later, rfl, hforms, hlength⟩ := hform
      cases later with
      | nil =>
        obtain rfl : front = [] := hforms
        rcases hlength with ⟨-, rfl⟩ | hlength
        · exact ⟨true, [], [], rfl, ⟨rfl, rfl⟩, .inl ⟨rfl, List.append_nil _, rfl⟩⟩
        · contradiction
      | cons value later =>
        obtain ⟨a, b, rfl, hvalue, hlater⟩ := hforms
        have hnext : false = (a ++ b ++ rest).isEmpty := by
          have := hpos value a _ hvalue
          cases a with
          | nil => contradiction
          | cons first a => rfl
        exact ⟨false, [], a ++ b, rfl, ⟨hnext, rfl⟩, .inr ⟨nofun, value, a, b, rfl, hvalue, later,
          by simp, hlater, hlength.imp (And.imp_left Nat.lt_of_succ_lt_succ) Nat.succ.inj⟩⟩

theorem Reads.many {read : Reader α} {form : α → Bytes → Bytes → Prop} (h : Reads read form)
    (hpos : ∀ value front rest, form value front rest → 0 < front.length) :
    Reads (many read) fun values front rest => Forms form values front rest ∧ rest = [] := by
  intro start values stop
  show many.go read start.rest.length [] start = .ok (values, stop) ↔ _
  rw [h.many_go hpos _ [] start values stop]
  constructor
  · intro hform
    obtain ⟨front, ⟨later, rfl, hforms, hlength⟩, hstart, hstop⟩ := hform
    refine ⟨front, ⟨hforms, ?_⟩, hstart, hstop⟩
    rcases hlength with ⟨-, hend⟩ | hlength
    · exact hend
    · -- every value has a byte, so as many values as bytes leave nothing behind
      have hle := length_le_of_forms hpos hforms
      rw [hstart, List.length_append] at hlength
      exact List.length_eq_zero_iff.1 (by omega)
  · intro hform
    obtain ⟨front, ⟨hforms, hend⟩, hstart, hstop⟩ := hform
    refine ⟨front, ⟨values, rfl, hforms, ?_⟩, hstart, hstop⟩
    have hle := length_le_of_forms hpos hforms
    rw [hstart, List.length_append]
    exact (Nat.lt_or_eq_of_le (Nat.le_add_right_of_le hle)).imp (⟨·, hend⟩) id

/-- The length that an extension can have. -/
def Bounded (e : Extension) : Prop :=
  e.element.contents.length ≤ maxLength ∧ e.element.encode.length ≤ maxLength

/-- A list of extensions up to the end of the contents. -/
theorem reads_many_extension : Reads (many extension) fun values front rest =>
    rest = [] ∧ ∃ fields : List Extension, values = fields.map (·.element) ∧
      (∀ e ∈ fields, Bounded e) ∧ front = fields.flatMap Extension.encode := by
  refine (reads_extension.many ?_).congr fun values front rest => ?_
  · rintro e front rest ⟨number, -, -, rfl⟩
    exact length_element_pos _ _
  · rw [and_comm]
    refine and_congr_right fun hrest => ?_
    subst hrest
    induction values generalizing front with
    | nil =>
      constructor
      · rintro rfl
        exact ⟨[], rfl, nofun, rfl⟩
      · intro h
        obtain ⟨fields, hfields, -, rfl⟩ := h
        rw [List.map_eq_nil_iff.1 hfields.symm]
        rfl
    | cons e values ih =>
      constructor
      · intro h
        obtain ⟨_, b, rfl, ⟨number, hcontents, hencode, rfl⟩, hvalues⟩ := h
        obtain ⟨fields, rfl, hfields, rfl⟩ := (ih b).1 hvalues
        exact ⟨⟨number, e⟩ :: fields, rfl,
          List.forall_mem_cons.2 ⟨⟨hcontents, hencode⟩, hfields⟩, rfl⟩
      · intro h
        obtain ⟨fields, hvalues, hfields, rfl⟩ := h
        obtain ⟨first, later, rfl, rfl, hlater⟩ := List.map_eq_cons_iff.1 hvalues.symm
        obtain ⟨⟨hcontents, hencode⟩, hfields⟩ := List.forall_mem_cons.1 hfields
        exact ⟨_, _, rfl, ⟨first.number, hcontents, hencode, rfl⟩,
          (ih _).2 ⟨later, hlater.symm, hfields, rfl⟩⟩

theorem beginsElse_passes_iff {number : Fin 31} {fields : List Extension} :
    BeginsElse (Passes number) (fields.flatMap Extension.encode) ↔
      ∀ e ∈ fields.head?, number < e.number := by
  cases fields with
  | nil => exact iff_of_true (.inl rfl) nofun
  | cons e fields =>
    have hbegins : Begins (.explicit e.number) ((e :: fields).flatMap Extension.encode) :=
      begins_element _ _ _
    constructor
    · rintro (hend | ⟨tag, hpasses, hbegins'⟩) _ ⟨⟩
      · exact absurd hend (List.cons_ne_nil _ _)
      · exact hpasses true e.number (hbegins'.tag_eq hbegins)
    · intro h
      refine .inr ⟨_, ?_, hbegins⟩
      rintro _ _ ⟨⟩
      exact h e rfl

end Reader

end SealedKey.Der
