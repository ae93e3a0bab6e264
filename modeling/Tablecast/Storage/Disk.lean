import Tablecast.Storage.FileTree

/-!
# Disks

What a program may do with files, and what it learns of the outcome. The operations of a file tree
are one such disk.
-/

namespace Tablecast.Storage

structure Disk (m : Type → Type) where
  /-- The text of a file; none if it cannot be read or is no text. -/
  read : String → m (Option String)
  isFile : String → m Bool
  /-- Makes a directory and those that lead to it. -/
  makeDirectories : String → m Bool
  write : String → String → m Bool
  rename : String → String → m Bool
  remove : String → m Unit

namespace FileTree

/-- Goes on with the changed tree, or with the same one after a failure. -/
def attempt (change : FileTree → Option FileTree) : StateM FileTree Bool := fun t =>
  match change t with
  | some changed => (true, changed)
  | none => (false, t)

def disk : Disk (StateM FileTree) where
  read path := fun t => (t.text? path, t)
  isFile path := fun t => (t.isFile path, t)
  makeDirectories path := fun t => ((t.makeDirectories path).2, (t.makeDirectories path).1)
  write path text := attempt (·.write? path text.toUTF8)
  rename source target := attempt (·.rename? source target)
  remove path := fun t => ((), (t.remove? path).getD t)

end FileTree

end Tablecast.Storage
