import SealedKey.Entropy

/-!
# Successful draws

When a computation that draws from a supply has a result, and what it leaves of the supply.
-/

namespace SealedKey.Draw

variable {α β : Type} {supply rest : Bytes}

theorem pure_eq_some_iff {value value' : α} :
    (pure value : Draw α) supply = some (value', rest) ↔ value = value' ∧ supply = rest := by
  rw [show (pure value : Draw α) supply = some (value, supply) from rfl, Option.some.injEq,
    Prod.mk.injEq]

theorem bind_eq_some_iff {step : Draw α} {next : α → Draw β} {value : β} :
    (step >>= next) supply = some (value, rest) ↔
      ∃ first between, step supply = some (first, between) ∧
        next first between = some (value, rest) := by
  change (step supply).bind (fun found => next found.1 found.2) = _ ↔ _
  rw [Option.bind_eq_some_iff, Prod.exists]

/-- The bytes that are drawn are those in front. -/
theorem bytes_eq_some_iff {count : Nat} {front : Bytes} :
    bytes count supply = some (front, rest) ↔ front.length = count ∧ supply = front ++ rest :=
  Bytes.split?_eq_some_iff

/-- A step that accepts what it drew is not repeated. -/
theorem untilSome_eq_some {step : Draw (Option α)} {value : α}
    (h : step supply = some (some value, rest)) : untilSome step supply = some (value, rest) := by
  rw [untilSome, h]

end SealedKey.Draw
