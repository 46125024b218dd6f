import SealedKey.Bytes

/-!
# Drawing from an entropy supply

Random bytes come from a finite supply, first to last.  A draw that wants more bytes
than are left has no result, and neither has anything that depends on it.
-/

namespace SealedKey

/-- A computation that draws bytes from a supply, and has no result when it runs out. -/
abbrev Draw := StateT Bytes Option

namespace Draw

/-- The next `count` bytes. -/
def bytes (count : Nat) : Draw Bytes :=
  Bytes.split? count

/--
Repeats a step until it accepts what it drew.  A step that draws nothing would never
change its mind, so it is not repeated.
-/
def untilSome {α : Type} (step : Draw (Option α)) (supply : Bytes) : Option (α × Bytes) :=
  match step supply with
  | none => none
  | some (some value, rest) => some (value, rest)
  | some (none, rest) =>
    if _h : rest.length < supply.length then untilSome step rest else none
termination_by supply.length

end Draw

end SealedKey
