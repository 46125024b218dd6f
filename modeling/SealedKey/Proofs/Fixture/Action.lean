import SealedKey.Fixture.Host
import SealedKey.Proofs.Bytes
import SealedKey.Proofs.FileTree

/-!
# Actions on a workspace

A step of a job that runs on a workspace ends with a value or with a reason to stop, and leaves a
workspace behind (`Workspace.perform`).

* The lemmas `perform_…_eq_ok_iff` say when a step ends with a value.
* `KeepsTree`, `Atomic` and `Total` are the properties of steps from which follows that a job that
  fails leaves the tree as it was: `Atomic.after_keeps` and `Atomic.before_total` put them together.
-/

namespace SealedKey

/-- A path that leads to a file with a text. -/
def FileTree.HoldsText (tree : FileTree) (path text : String) : Prop :=
  ∃ contents, tree.read path = .ok contents ∧ Bytes.toString? contents = some text

theorem FileTree.HoldsText.unique {tree : FileTree} {path text text' : String}
    (h : tree.HoldsText path text) (h' : tree.HoldsText path text') : text = text' := by
  obtain ⟨contents, hread, htext⟩ := h
  obtain ⟨contents', hread', htext'⟩ := h'
  obtain rfl : contents = contents' := Except.ok.inj (hread.symm.trans hread')
  exact Option.some.inj (htext.symm.trans htext')

/-- What was written is held. -/
theorem FileTree.holdsText_of_write {tree tree' : FileTree} {path text : String}
    (h : tree.write path (Bytes.ofString text) = .ok tree') : tree'.HoldsText path text :=
  ⟨_, (overwrites_of_write h).read, Bytes.toString?_ofString text⟩

/-- Writing elsewhere keeps what is held. -/
theorem FileTree.holdsText_of_write_iff {tree tree' : FileTree} {path other text : String}
    {contents : Bytes} (h : tree.write path contents = .ok tree') (hapart : tree.Apart path other) :
    tree'.HoldsText other text ↔ tree.HoldsText other text := by
  simp only [HoldsText, read_of_write h hapart]

namespace Workspace

/-- A step of a job that runs on a workspace. -/
abbrev Action (α : Type) := ExceptT Stop (StateM Workspace) α

/-- How an action ends, and the workspace that it leaves. -/
def perform {α : Type} (workspace : Workspace) (action : Action α) : Except Stop α × Workspace :=
  action.run workspace

/-- A workspace with one more event. -/
def noting (workspace : Workspace) (event : Log.Event) : Workspace :=
  { workspace with events := workspace.events ++ [event] }

variable {α β : Type} {workspace workspace' : Workspace}

/-! ## What a step does -/

theorem perform_mk_bind {γ : Type} (action : StateM Workspace γ)
    (next : γ → StateM Workspace (Except Stop α)) :
    workspace.perform (ExceptT.mk (action >>= next)) =
      next (action workspace).1 (action workspace).2 := rfl

theorem perform_bind (action : Action α) (next : α → Action β) :
    workspace.perform (action >>= next) =
      match workspace.perform action with
      | (.ok value, workspace') => workspace'.perform (next value)
      | (.error stop, workspace') => (.error stop, workspace') := by
  change (match workspace.perform action with
    | (result, workspace') => (ExceptT.bindCont next result : StateM Workspace _) workspace') = _
  rcases workspace.perform action with ⟨_ | _, _⟩
  · rfl
  · rfl

theorem perform_log (level : Log.Level) (message : String) (fields : List (String × String)) :
    workspace.perform (Host.log level message fields) =
      (.ok (), workspace.noting ⟨level, message, fields⟩) := rfl

theorem perform_ofExcept (result : Except Error α) :
    workspace.perform (Host.ofExcept result) = (result.mapError .failed, workspace) := rfl

theorem perform_readText (path : String) :
    workspace.perform (Host.readText path) =
      (match workspace.tree.read path with
        | .error cause => .error (.failed (.io path cause.message))
        | .ok contents =>
          match Bytes.toString? contents with
          | some text => .ok text
          | none => .error (.failed (.io path FileError.notText.message)), workspace) := by
  have hread : (Host.readFile path : StateM Workspace _) workspace =
    (workspace.tree.read path, workspace) := rfl
  rw [Host.readText, perform_mk_bind, hread]
  rcases workspace.tree.read path with cause | contents
  · rfl
  · dsimp only
    rcases Bytes.toString? contents with _ | text
    · rfl
    · rfl

theorem perform_writeText (path text : String) :
    workspace.perform (Host.writeText path text) =
      match workspace.tree.write path (Bytes.ofString text) with
      | .ok tree => (.ok (), { workspace with tree })
      | .error cause => (.error (.failed (.io path cause.message)), workspace) := by
  have hwrite (contents : Bytes) : (Host.writeFile path contents : StateM Workspace _) workspace =
    match workspace.tree.write path contents with
    | .ok tree => (.ok (), { workspace with tree })
    | .error cause => (.error cause, workspace) := rfl
  rw [Host.writeText, perform_mk_bind, hwrite]
  rcases workspace.tree.write path (Bytes.ofString text) with cause | tree
  · rfl
  · rfl

theorem perform_ofDraw (step : Draw (Except Error α)) :
    workspace.perform (Host.ofDraw step) =
      match step workspace.supply with
      | some (result, supply) => (result.mapError .failed, { workspace with supply })
      | none => (.error .exhausted, workspace) := by
  have hdraw : (Host.draw step : StateM Workspace _) workspace = Workspace.draw step workspace :=
    rfl
  rw [Host.ofDraw, perform_mk_bind, hdraw, Workspace.draw, StateT.run]
  rcases step workspace.supply with _ | ⟨result, supply⟩
  · rfl
  · rfl

theorem perform_bind_of_ok {action : Action α} {next : α → Action β} {value : α}
    (h : workspace.perform action = (.ok value, workspace')) :
    workspace.perform (action >>= next) = workspace'.perform (next value) := by
  rw [perform_bind, h]

theorem perform_bind_of_error {action : Action α} {next : α → Action β} {stop : Stop}
    (h : workspace.perform action = (.error stop, workspace')) :
    workspace.perform (action >>= next) = (.error stop, workspace') := by
  rw [perform_bind, h]

/-! ## When a step ends with a value -/

theorem perform_bind_eq_ok_iff {action : Action α} {next : α → Action β} {value : β} :
    workspace.perform (action >>= next) = (.ok value, workspace') ↔
      ∃ first between, workspace.perform action = (.ok first, between) ∧
        between.perform (next first) = (.ok value, workspace') := by
  rw [perform_bind]
  rcases workspace.perform action with ⟨stop | first, between⟩
  · simp
  · simp

theorem perform_ofExcept_eq_ok_iff {result : Except Error α} {value : α} :
    workspace.perform (Host.ofExcept result) = (.ok value, workspace') ↔
      result = .ok value ∧ workspace' = workspace := by
  rw [perform_ofExcept, Prod.mk.injEq, Except.mapError_eq_ok_iff, eq_comm (a := workspace)]

theorem perform_readText_eq_ok_iff {path text : String} :
    workspace.perform (Host.readText path) = (.ok text, workspace') ↔
      workspace.tree.HoldsText path text ∧ workspace' = workspace := by
  rw [perform_readText, Prod.mk.injEq, eq_comm (a := workspace)]
  refine and_congr_left fun _ => ?_
  unfold FileTree.HoldsText
  rcases workspace.tree.read path with cause | contents
  · simp
  · rcases h : Bytes.toString? contents with _ | text
    · simp [h]
    · simp [h]

theorem perform_writeText_eq_ok_iff {path text : String} :
    workspace.perform (Host.writeText path text) = (.ok (), workspace') ↔
      ∃ tree, workspace.tree.write path (Bytes.ofString text) = .ok tree ∧
        workspace' = { workspace with tree } := by
  rw [perform_writeText]
  rcases workspace.tree.write path (Bytes.ofString text) with cause | tree
  · simp
  · simp [eq_comm]

theorem perform_ofDraw_eq_ok_iff {step : Draw (Except Error α)} {value : α} :
    workspace.perform (Host.ofDraw step) = (.ok value, workspace') ↔
      ∃ supply, step workspace.supply = some (.ok value, supply) ∧
        workspace' = { workspace with supply } := by
  rw [perform_ofDraw]
  rcases step workspace.supply with _ | ⟨result, supply⟩
  · simp
  · simp [Except.mapError_eq_ok_iff, eq_comm]

/-- An action that ends with a value and leaves a tree, whatever else it leaves. -/
def Yields (workspace : Workspace) (action : Action α) (value : α) (tree : FileTree) : Prop :=
  ∃ workspace', workspace.perform action = (.ok value, workspace') ∧ workspace'.tree = tree

theorem Yields.after {action : Action α} {next : α → Action β} {first : α} {value : β}
    {tree : FileTree} (h : workspace'.Yields (next first) value tree)
    (hfirst : workspace.perform action = (.ok first, workspace')) :
    workspace.Yields (action >>= next) value tree := by
  obtain ⟨last, hlast, htree⟩ := h
  exact ⟨last, perform_bind_eq_ok_iff.2 ⟨first, workspace', hfirst, hlast⟩, htree⟩

/-! ## Steps that keep the tree -/

/-- A step that leaves the tree as it was, however it ends. -/
def KeepsTree (action : Action α) : Prop :=
  ∀ workspace : Workspace, (workspace.perform action).2.tree = workspace.tree

/-- A step that leaves the tree as it was, unless it ends with a value. -/
def Atomic (action : Action α) : Prop :=
  ∀ (workspace : Workspace) stop workspace',
    workspace.perform action = (.error stop, workspace') → workspace'.tree = workspace.tree

/-- A step that always ends with a value. -/
def Total (action : Action α) : Prop :=
  ∀ workspace : Workspace, ∃ value workspace', workspace.perform action = (.ok value, workspace')

theorem KeepsTree.atomic {action : Action α} (h : KeepsTree action) : Atomic action := by
  intro workspace stop workspace' hperform
  rw [← h workspace, hperform]

theorem keepsTree_pure (value : α) : KeepsTree (pure value) := fun _ => rfl

theorem keepsTree_log (level : Log.Level) (message : String) (fields : List (String × String)) :
    KeepsTree (Host.log level message fields) := fun _ => rfl

theorem keepsTree_ofExcept (result : Except Error α) : KeepsTree (Host.ofExcept result) :=
  fun _ => rfl

theorem keepsTree_readText (path : String) : KeepsTree (Host.readText path) := by
  intro workspace
  rw [perform_readText]

theorem keepsTree_ofDraw (step : Draw (Except Error α)) : KeepsTree (Host.ofDraw step) := by
  intro workspace
  rw [perform_ofDraw]
  rcases step workspace.supply with _ | _
  · rfl
  · rfl

theorem atomic_writeText (path text : String) : Atomic (Host.writeText path text) := by
  intro workspace stop workspace' h
  rw [perform_writeText] at h
  rcases hwrite : workspace.tree.write path (Bytes.ofString text) with cause | tree
  · rw [hwrite] at h
    cases h
    rfl
  · rw [hwrite] at h
    nomatch h

theorem KeepsTree.bind {action : Action α} {next : α → Action β} (h : KeepsTree action)
    (hnext : ∀ value, KeepsTree (next value)) : KeepsTree (action >>= next) := by
  intro workspace
  rw [perform_bind, ← h workspace]
  rcases workspace.perform action with ⟨_ | value, between⟩
  · rfl
  · exact hnext value between

/-- Steps that keep the tree can come before. -/
theorem Atomic.after_keeps {action : Action α} {next : α → Action β} (h : KeepsTree action)
    (hnext : ∀ (workspace : Workspace) value workspace',
      workspace.perform action = (.ok value, workspace') → Atomic (next value)) :
    Atomic (action >>= next) := by
  intro workspace stop workspace' hperform
  rw [← h workspace]
  rw [perform_bind] at hperform
  rcases hfirst : workspace.perform action with ⟨_ | value, between⟩
  · rw [hfirst] at hperform
    cases hperform
    rfl
  · rw [hfirst] at hperform
    exact hnext workspace value between hfirst between stop workspace' hperform

/-- Steps that cannot fail can come behind. -/
theorem Atomic.before_total {action : Action α} {next : α → Action β} (h : Atomic action)
    (hnext : ∀ value, Total (next value)) : Atomic (action >>= next) := by
  intro workspace stop workspace' hperform
  rw [perform_bind] at hperform
  rcases hfirst : workspace.perform action with ⟨_ | value, between⟩
  · rw [hfirst] at hperform
    cases hperform
    exact h workspace _ _ hfirst
  · rw [hfirst] at hperform
    obtain ⟨_, _, hvalue⟩ := hnext value between
    exact nomatch hvalue.symm.trans hperform

end Workspace

end SealedKey
