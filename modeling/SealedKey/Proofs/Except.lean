import Mathlib.Data.Nat.Notation

/-!
# Results

When a computation that may fail succeeds, and with which error it fails: what `bind`, `mapM`,
`mapError` and `map` need.
-/

namespace Except

variable {ε ε' α β : Type}

theorem bind_ok {first : α} {next : α → Except ε β} : (.ok first >>= next) = next first := rfl

theorem mapError_ok {f : ε → ε'} {value : α} :
    (.ok value : Except ε α).mapError f = .ok value := rfl

theorem mapError_error {f : ε → ε'} {cause : ε} :
    (.error cause : Except ε α).mapError f = .error (f cause) := rfl

theorem bind_eq_ok_iff {result : Except ε α} {next : α → Except ε β} {value : β} :
    (result >>= next) = .ok value ↔ ∃ first, result = .ok first ∧ next first = .ok value := by
  cases result with
  | error cause => simp [Bind.bind, Except.bind]
  | ok first => simp [Bind.bind, Except.bind]

theorem pure_eq_ok_iff {value value' : α} :
    (pure value : Except ε α) = .ok value' ↔ value = value' := by
  rw [show (pure value : Except ε α) = .ok value from rfl, Except.ok.injEq]

theorem throw_ne_ok {cause : ε} {value : α} : (throw cause : Except ε α) ≠ .ok value :=
  nofun

theorem mapError_eq_ok_iff {f : ε → ε'} {result : Except ε α} {value : α} :
    result.mapError f = .ok value ↔ result = .ok value := by
  cases result with
  | error cause => simp [mapError_error]
  | ok value' => simp [mapError_ok]

/-- A test that stops the computation. -/
theorem guard_bind_eq_ok_iff {p : Prop} [Decidable p] {cause : ε} {stop : α → Except ε β}
    {result : Except ε β} {value : β} :
    (if p then throw cause >>= stop else result) = .ok value ↔ ¬ p ∧ result = .ok value := by
  by_cases hp : p
  · rw [if_pos hp]
    exact iff_of_false throw_ne_ok fun h => h.1 hp
  · rw [if_neg hp]
    exact (and_iff_right hp).symm

theorem map_eq_ok_iff {f : α → β} {result : Except ε α} {value : β} :
    f <$> result = .ok value ↔ ∃ first, result = .ok first ∧ f first = value := by
  cases result with
  | error cause => simp [Functor.map, Except.map]
  | ok first => simp [Functor.map, Except.map]

theorem bind_eq_error_iff {result : Except ε α} {next : α → Except ε β} {cause : ε} :
    (result >>= next) = .error cause ↔
      result = .error cause ∨ ∃ first, result = .ok first ∧ next first = .error cause := by
  cases result with
  | error cause' => simp [Bind.bind, Except.bind]
  | ok first => simp [Bind.bind, Except.bind]

theorem mapError_eq_error_iff {f : ε → ε'} {result : Except ε α} {cause : ε'} :
    result.mapError f = .error cause ↔ ∃ cause', result = .error cause' ∧ f cause' = cause := by
  cases result with
  | error cause' => simp [mapError_error]
  | ok value => simp [mapError_ok]

end Except
