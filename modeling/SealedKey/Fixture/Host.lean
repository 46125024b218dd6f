import SealedKey.Entropy
import SealedKey.Error
import SealedKey.FileTree.Basic
import SealedKey.Log.Event

/-!
# Hosts

A job reads and writes files, draws random bytes and records events.  `Host` is what it
needs of the place where it runs.  A `Workspace` is a host that is a value: a file
tree, a supply of bytes and the events so far.

Steps of a job run on a host and may stop it early (`Stop`).  What the host did up to then
stays done.
-/

namespace SealedKey

/-- Why a job stopped before its end. -/
inductive Stop where
  /-- A step failed. -/
  | failed (cause : Error)
  /-- There were not enough random bytes. -/
  | exhausted

/-- A place where jobs run. -/
class Host (m : Type → Type) where
  /-- The contents of a file. -/
  readFile : String → m (Except FileError Bytes)
  /-- Gives a file its contents. -/
  writeFile : String → Bytes → m (Except FileError Unit)
  /-- Draws from the supply of random bytes. -/
  draw {α : Type} : Draw α → m (Option α)
  /-- Records an event. -/
  record : Log.Event → m Unit

/-! ## Workspaces -/

/-- A host as a value. -/
structure Workspace where
  tree : FileTree
  /-- The random bytes that are left. -/
  supply : Bytes
  /-- The events so far, in order. -/
  events : List Log.Event

namespace Workspace

/-- Writes a file of the tree. -/
def writeFile (path : String) (contents : Bytes) : StateM Workspace (Except FileError Unit) :=
  fun workspace =>
    match workspace.tree.write path contents with
    | .ok tree => (.ok (), { workspace with tree })
    | .error cause => (.error cause, workspace)

/-- Draws from the supply. -/
def draw {α : Type} (step : Draw α) : StateM Workspace (Option α) :=
  fun workspace =>
    match step.run workspace.supply with
    | some (value, supply) => (some value, { workspace with supply })
    | none => (none, workspace)

instance : Host (StateM Workspace) where
  readFile path := fun workspace => (workspace.tree.read path, workspace)
  writeFile := writeFile
  draw := draw
  record event := fun workspace => ((), { workspace with events := workspace.events ++ [event] })

end Workspace

/-! ## Steps of a job -/

namespace Host

variable {m : Type → Type} [Monad m] [Host m] {α : Type}

/-- The result of a step that may fail. -/
def ofExcept (result : Except Error α) : ExceptT Stop m α :=
  ExceptT.mk (pure (result.mapError Stop.failed))

/-- The text of a file. -/
def readText (path : String) : ExceptT Stop m String :=
  ExceptT.mk do
    let fail := fun (cause : FileError) =>
      Except.error (Stop.failed (.io path cause.message))
    match ← readFile path with
    | .error cause => return fail cause
    | .ok contents =>
      match Bytes.toString? contents with
      | some text => return .ok text
      | none => return fail .notText

/-- Gives a file a text. -/
def writeText (path text : String) : ExceptT Stop m Unit :=
  ExceptT.mk do
    let result ← writeFile path (Bytes.ofString text)
    return result.mapError fun cause => Stop.failed (.io path cause.message)

/-- The result of a step that draws and may fail. -/
def ofDraw (step : Draw (Except Error α)) : ExceptT Stop m α :=
  ExceptT.mk do
    match ← draw step with
    | some result => return result.mapError Stop.failed
    | none => return .error .exhausted

/-- Records an event. -/
def log (level : Log.Level) (message : String) (fields : List (String × String)) :
    ExceptT Stop m Unit :=
  ExceptT.lift (record ⟨level, message, fields⟩)

end Host

end SealedKey
