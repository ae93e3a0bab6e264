import Tablecast.Storage.Disk

/-!
# Publication

Several files are published together or not at all. Each text is first written to a file beside its
output. Once all are there, each is moved to its output, and what stood there before is first moved
aside. A failure takes back every move in reverse order and removes what was written.
-/

namespace Tablecast.Storage

/-- A text and the path it is published at. -/
structure Output where
  path : String
  text : String

/-- Why nothing was published. -/
inductive PublicationError where
  /-- The path names no file. -/
  | invalidOutput (path : String)
  | unwritable (path : String)
  deriving DecidableEq

/-- A text that waits beside its output. -/
structure Staged where
  temporary : String
  path : String

/-- An output in its place, and where its forerunner went. -/
structure Published where
  path : String
  backup : Option String

namespace Disk

variable {m : Type → Type} [Monad m] (disk : Disk m)

/-- Makes the directory of an output. -/
def prepare (path : String) : m Bool :=
  match Path.parent? path with
  | none => pure true
  | some parent => if parent = "" then pure true else disk.makeDirectories parent

def stage (o : Output) : m (Except PublicationError Staged) := do
  if ← disk.prepare o.path then
    match Path.sibling? o.path "tmp" with
    | none => pure (.error (.invalidOutput o.path))
    | some temporary =>
      if ← disk.write temporary o.text then pure (.ok ⟨temporary, o.path⟩)
      else
        disk.remove temporary
        pure (.error (.unwritable o.path))
  else pure (.error (.unwritable o.path))

/-- Removes texts that will not be published. -/
def discard (staged : List Staged) : m Unit := staged.forM fun s => disk.remove s.temporary

/-- Stages outputs in order; the first failure removes those already staged. -/
def stageAll : List Output → List Staged → m (Except PublicationError (List Staged))
  | [], staged => pure (.ok staged)
  | o :: rest, staged => do
    match ← disk.stage o with
    | .ok s => stageAll rest (staged ++ [s])
    | .error e =>
      disk.discard staged
      pure (.error e)

/-- Moves a file that stands at the output aside; none if that fails. -/
def setAside (path : String) : m (Option (Option String)) := do
  if ← disk.isFile path then
    match Path.sibling? path "bak" with
    | none => pure none
    | some backup => do
      if ← disk.rename path backup then pure (some (some backup)) else pure none
  else pure (some none)

/-- Moves a staged text into place; none if that fails, and then its forerunner is back. -/
def publish (s : Staged) : m (Option Published) := do
  match ← disk.setAside s.path with
  | none => pure none
  | some backup =>
    if ← disk.rename s.temporary s.path then pure (some ⟨s.path, backup⟩)
    else
      if let some b := backup then
        let _ ← disk.rename b s.path
      pure none

/-- Takes a published output back. -/
def withdraw (p : Published) : m Unit := do
  match p.backup with
  | some b =>
    let _ ← disk.rename b p.path
  | none => disk.remove p.path

/-- Publishes staged texts in order; the first failure takes all back. -/
def publishAll : List Staged → List Published → m (Except PublicationError (List Published))
  | [], published => pure (.ok published)
  | s :: rest, published => do
    match ← disk.publish s with
    | some p => publishAll rest (published ++ [p])
    | none =>
      disk.discard (s :: rest)
      published.reverse.forM (disk.withdraw ·)
      pure (.error (.unwritable s.path))

/-- Removes the forerunners of what has been published. -/
def dropBackups (published : List Published) : m Unit :=
  published.forM fun p =>
    match p.backup with
    | some b => disk.remove b
    | none => pure ()

/-- Publishes every output or none. -/
def publishOutputs (outputs : List Output) : m (Except PublicationError Unit) := do
  match ← disk.stageAll outputs [] with
  | .error e => pure (.error e)
  | .ok staged =>
    match ← disk.publishAll staged [] with
    | .error e => pure (.error e)
    | .ok published =>
      disk.dropBackups published
      pure (.ok ())

end Disk

end Tablecast.Storage
