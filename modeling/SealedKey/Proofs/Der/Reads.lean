import SealedKey.Der.Reader
import SealedKey.Proofs.Except

/-!
# What a reader accepts

A reader is described by a relation: `Reads read form` says that `read` succeeds with a value
exactly when the bytes that come next are a form of this value.  The relation sees the bytes
behind the form too, since optional fields depend on what follows them.  It says nothing of
offsets except that they count the bytes that were read.

Each way to put readers together has one lemma, so that the description of a composite reader is
put together in the same way: `Reads.bind`, `reads_pure`, `reads_throw`, `Reads.ite`,
`reads_lift`, and `Reads.congr` to give the result a better shape.
-/

namespace SealedKey.Der

theorem document_eq_ok_iff {bytes bytes' : Bytes} :
    document bytes = .ok bytes' ↔ bytes.length ≤ maxLength ∧ bytes' = bytes := by
  unfold document
  split
  · rename_i hlength
    rw [Except.pure_eq_ok_iff, eq_comm (a := bytes)]
    exact (and_iff_right hlength).symm
  · rename_i hlength
    exact iff_of_false Except.throw_ne_ok fun h => hlength h.1

namespace Reader

variable {α β : Type}

theorem Cursor.ext {cursor cursor' : Cursor} (hoffset : cursor.offset = cursor'.offset)
    (hrest : cursor.rest = cursor'.rest) : cursor = cursor' := by
  cases cursor
  cases cursor'
  simp only [Cursor.mk.injEq]
  exact ⟨hoffset, hrest⟩

/-- `read` gives `value` and leaves `rest` exactly if `form value front rest` holds of the bytes
`front` that it consumes. -/
def Reads (read : Reader α) (form : α → Bytes → Bytes → Prop) : Prop :=
  ∀ start value stop, read start = .ok (value, stop) ↔
    ∃ front, form value front stop.rest ∧ start.rest = front ++ stop.rest ∧
      stop.offset = start.offset + front.length

theorem Reads.congr {read : Reader α} {form form' : α → Bytes → Bytes → Prop}
    (h : Reads read form) (hform : ∀ value front rest, form value front rest ↔
      form' value front rest) : Reads read form' := by
  intro start value stop
  rw [h]
  simp only [hform]

/-- What a reader consumes is not the start of anything else that it accepts: the bytes say where
the form ends. -/
theorem Reads.eq_of_append_eq {read : Reader α} {form : α → Bytes → Bytes → Prop}
    (h : Reads read form) {value value' : α} {front front' rest rest' : Bytes}
    (hform : form value front rest) (hform' : form value' front' rest')
    (hbytes : front ++ rest = front' ++ rest') : value = value' ∧ rest = rest' := by
  have hread : read ⟨0, front ++ rest⟩ = .ok (value, ⟨0 + front.length, rest⟩) := by
    apply (h ..).2
    exact ⟨front, hform, rfl, rfl⟩
  have hread' : read ⟨0, front ++ rest⟩ = .ok (value', ⟨0 + front'.length, rest'⟩) := by
    apply (h ..).2
    exact ⟨front', hform', hbytes, rfl⟩
  rw [hread, Except.ok.injEq, Prod.mk.injEq, Cursor.mk.injEq] at hread'
  exact ⟨hread'.1, hread'.2.2⟩

/-! ## Putting readers together -/

theorem bind_eq_ok_iff {read : Reader α} {next : α → Reader β} {start stop : Cursor} {value : β} :
    (read >>= next) start = .ok (value, stop) ↔
      ∃ first middle, read start = .ok (first, middle) ∧ next first middle = .ok (value, stop) := by
  show (read start >>= fun p => next p.1 p.2) = .ok (value, stop) ↔ _
  cases read start with
  | error cause => simp [bind, Except.bind]
  | ok p =>
    obtain ⟨first, middle⟩ := p
    constructor
    · intro h
      exact ⟨first, middle, rfl, h⟩
    · intro hform
      obtain ⟨_, _, hp, h⟩ := hform
      cases hp
      exact h

theorem get_eq_ok_iff {start stop cursor : Cursor} :
    (get : Reader Cursor) start = .ok (cursor, stop) ↔ cursor = start ∧ stop = start := by
  show Except.ok (start, start) = Except.ok (cursor, stop) ↔ _
  rw [Except.ok.injEq, Prod.mk.injEq, eq_comm, eq_comm (a := start)]

theorem lift_eq_ok_iff {result : Except Error α} {start stop : Cursor} {value : α} :
    (liftM result : Reader α) start = .ok (value, stop) ↔ result = .ok value ∧ stop = start := by
  cases result with
  | error cause => exact iff_of_false nofun nofun
  | ok value' =>
    show Except.ok (value', start) = Except.ok (value, stop) ↔ _
    rw [Except.ok.injEq, Prod.mk.injEq, Except.ok.injEq, eq_comm (a := start)]

theorem Reads.bind {read : Reader α} {next : α → Reader β} {form : α → Bytes → Bytes → Prop}
    {forms : α → β → Bytes → Bytes → Prop} (h : Reads read form)
    (hnext : ∀ first, Reads (next first) (forms first)) :
    Reads (read >>= next) fun value front rest => ∃ first a b, front = a ++ b ∧
      form first a (b ++ rest) ∧ forms first value b rest := by
  intro start value stop
  rw [bind_eq_ok_iff]
  constructor
  · intro hform
    obtain ⟨first, middle, hfirst, hvalue⟩ := hform
    obtain ⟨a, ha, hstart, hmiddle⟩ := (h ..).1 hfirst
    obtain ⟨b, hb, hrest, hstop⟩ := (hnext first ..).1 hvalue
    refine ⟨a ++ b, ⟨first, a, b, rfl, hrest ▸ ha, hb⟩, ?_, ?_⟩
    · rw [hstart, hrest, List.append_assoc]
    · rw [hstop, hmiddle, List.length_append, Nat.add_assoc]
  · intro hform
    obtain ⟨front, ⟨first, a, b, rfl, ha, hb⟩, hstart, hstop⟩ := hform
    refine ⟨first, ⟨start.offset + a.length, b ++ stop.rest⟩, (h ..).2 ⟨a, ha, ?_, rfl⟩,
      (hnext first ..).2 ⟨b, hb, rfl, ?_⟩⟩
    · rw [hstart, List.append_assoc]
    · rw [hstop, List.length_append, Nat.add_assoc]

theorem reads_pure (value : α) :
    Reads (Pure.pure value) fun value' front _ => value' = value ∧ front = [] := by
  intro start value' stop
  show Except.ok (value, start) = Except.ok (value', stop) ↔ _
  rw [Except.ok.injEq, Prod.mk.injEq]
  constructor
  · intro h
    obtain ⟨rfl, rfl⟩ := h
    exact ⟨[], ⟨rfl, rfl⟩, rfl, rfl⟩
  · intro h
    obtain ⟨front, ⟨rfl, rfl⟩, hrest, hoffset⟩ := h
    exact ⟨rfl, (Cursor.ext hoffset hrest.symm).symm⟩

theorem reads_throw (cause : Error) :
    Reads (throw cause : Reader α) fun _ _ _ => False := by
  intro start value stop
  show Except.error cause = Except.ok (value, stop) ↔ _
  simp

theorem reads_lift (result : Except Error α) :
    Reads (liftM result) fun value front _ => result = .ok value ∧ front = [] := by
  intro start value stop
  rw [lift_eq_ok_iff]
  constructor
  · intro h
    obtain ⟨hvalue, rfl⟩ := h
    exact ⟨[], ⟨hvalue, rfl⟩, rfl, rfl⟩
  · intro h
    obtain ⟨front, ⟨hvalue, rfl⟩, hrest, hoffset⟩ := h
    exact ⟨hvalue, Cursor.ext hoffset hrest.symm⟩

theorem Reads.ite {p : Prop} [Decidable p] {read read' : Reader α}
    {form form' : α → Bytes → Bytes → Prop} (h : Reads read form) (h' : Reads read' form') :
    Reads (if p then read else read') fun value front rest =>
      p ∧ form value front rest ∨ ¬ p ∧ form' value front rest := by
  by_cases hp : p
  · rw [if_pos hp]
    exact h.congr fun value front rest => by simp [hp]
  · rw [if_neg hp]
    exact h'.congr fun value front rest => by simp [hp]

/-- A test that stops the reader. -/
theorem Reads.guard {p : Prop} [Decidable p] {e : Error} {read : Reader α}
    {form : α → Bytes → Bytes → Prop} (h : Reads read form) :
    Reads (if p then throw e else read) fun value front rest =>
      ¬ p ∧ form value front rest :=
  ((reads_throw e).ite h).congr fun value front rest => by simp

/-! ## Bytes -/

theorem reads_byte : Reads byte fun value front _ => front = [value] := by
  rintro ⟨offset, bytes⟩ value ⟨offset', rest⟩
  cases bytes with
  | nil => simp [byte]
  | cons next bytes =>
    simp only [byte, Except.ok.injEq, Prod.mk.injEq, Cursor.mk.injEq]
    constructor
    · intro h
      obtain ⟨rfl, rfl, rfl⟩ := h
      exact ⟨_, rfl, rfl, rfl⟩
    · intro h
      obtain ⟨front, rfl, hrest, hoffset⟩ := h
      rw [List.singleton_append, List.cons.injEq] at hrest
      exact ⟨hrest.1, hoffset.symm, hrest.2⟩

theorem reads_take (count : Nat) :
    Reads (take count) fun value front _ => front = value ∧ value.length = count := by
  rintro ⟨offset, bytes⟩ value ⟨offset', rest⟩
  have htake : take count ⟨offset, bytes⟩ = .ok (value, ⟨offset', rest⟩) ↔
      Bytes.split? count bytes = some (value, rest) ∧ offset' = offset + count := by
    unfold take
    cases Bytes.split? count bytes with
    | none => simp
    | some parts =>
      obtain ⟨front, back⟩ := parts
      simp only [Except.ok.injEq, Prod.mk.injEq, Cursor.mk.injEq, Option.some.injEq]
      constructor
      · intro h
        obtain ⟨hfront, hoffset, hback⟩ := h
        exact ⟨⟨hfront, hback⟩, hoffset.symm⟩
      · intro h
        obtain ⟨⟨hfront, hback⟩, hoffset⟩ := h
        exact ⟨hfront, hoffset.symm, hback⟩
  refine htake.trans ?_
  rw [Bytes.split?_eq_some_iff]
  constructor
  · intro h
    obtain ⟨⟨hlength, hbytes⟩, hoffset⟩ := h
    exact ⟨value, ⟨rfl, hlength⟩, hbytes, by rw [hoffset, hlength]⟩
  · intro h
    obtain ⟨front, ⟨rfl, hlength⟩, hbytes, hoffset⟩ := h
    exact ⟨⟨hlength, hbytes⟩, hlength ▸ hoffset⟩

theorem reads_atEnd : Reads atEnd fun value front rest => value = rest.isEmpty ∧ front = [] := by
  rintro ⟨offset, bytes⟩ value ⟨offset', rest⟩
  simp only [atEnd, Except.ok.injEq, Prod.mk.injEq, Cursor.mk.injEq]
  constructor
  · intro h
    obtain ⟨rfl, rfl, rfl⟩ := h
    exact ⟨[], ⟨rfl, rfl⟩, rfl, rfl⟩
  · intro h
    obtain ⟨front, ⟨rfl, rfl⟩, rfl, rfl⟩ := h
    exact ⟨rfl, rfl, rfl⟩

/-! ## Whole documents -/

theorem finish_eq_ok_iff {total : Nat} {rest : Bytes} : finish total rest = .ok () ↔ rest = [] := by
  unfold finish
  split
  · rename_i hrest
    exact iff_of_true rfl (List.isEmpty_iff.1 hrest)
  · rename_i hrest
    exact iff_of_false Except.throw_ne_ok fun h => hrest (List.isEmpty_iff.2 h)

/-- A document is read by what its bytes, and nothing behind them, are a form of. -/
theorem Reads.run_eq_ok_iff {read : Reader α} {form : α → Bytes → Bytes → Prop}
    (h : Reads read form) {input : Bytes} {value : α} :
    run read input = .ok value ↔ input.length ≤ maxLength ∧ form value input [] := by
  simp only [run, Except.bind_eq_ok_iff, document_eq_ok_iff, StateT.run, Except.pure_eq_ok_iff]
  constructor
  · intro hgiven
    obtain ⟨_, ⟨hlength, rfl⟩, ⟨value', cursor⟩, hread, ⟨⟩, hfinish, rfl⟩ := hgiven
    obtain ⟨front, hform, hinput, -⟩ := (h ..).1 hread
    have hrest : cursor.rest = [] := finish_eq_ok_iff.1 hfinish
    rw [hrest, List.append_nil] at hinput
    cases hinput
    exact ⟨hlength, hrest ▸ hform⟩
  · intro hgiven
    obtain ⟨hlength, hform⟩ := hgiven
    refine ⟨input, ⟨hlength, rfl⟩, (value, ⟨input.length, []⟩), ?_, (), ?_, rfl⟩
    · exact (h ..).2 ⟨input, hform, (List.append_nil _).symm, (Nat.zero_add _).symm⟩
    · exact finish_eq_ok_iff.2 rfl

end Reader

end SealedKey.Der
