import Tablecast.Proofs.Storage.FileTree
import Tablecast.Storage.Disk

/-!
# Steps on a disk

An operation on a disk fails and changes nothing, or it does what it says to the one or two places
that it names.

* `write_cases`, `rename_cases`, `remove_cases`: both outcomes of an operation;
* `rename_succeeds`: when a file can be moved.
-/

namespace Tablecast.Storage

open FileTree

theorem bind_apply {α β : Type} (x : StateM FileTree α) (f : α → StateM FileTree β)
    (t : FileTree) : (x >>= f) t = f (x t).1 (x t).2 := rfl

variable {t : FileTree}

theorem attempt_of_none (change : FileTree → Option FileTree) (h : change t = none) :
    attempt change t = (false, t) := by
  simp only [attempt, h]

theorem attempt_of_some (change : FileTree → Option FileTree) {t' : FileTree}
    (h : change t = some t') : attempt change t = (true, t') := by
  simp only [attempt, h]

theorem write_cases (t : FileTree) (path text : String) :
    disk.write path text t = (false, t) ∨
      ∃ t', disk.write path text t = (true, t') ∧ t.Leads path ∧
        Within [t.destination path] t t' ∧
        t'.file? (t.destination path) = some text.toUTF8 := by
  cases written : t.write? path text.toUTF8 with
  | none => exact .inl (attempt_of_none (·.write? path text.toUTF8) written)
  | some t' =>
    refine .inr ⟨t', attempt_of_some (·.write? path text.toUTF8) written, ?_⟩
    obtain ⟨leads, free, rfl⟩ := write?_eq_some.mp written
    exact ⟨leads, within_put free _, file?_put free _⟩

/-- Moving a file fails and changes nothing, or it changes the two places. -/
theorem rename_cases {source target : String}
    (apart : t.destination source ≠ t.destination target) :
    disk.rename source target t = (false, t) ∨
      ∃ content t', disk.rename source target t = (true, t') ∧ t.Leads source ∧ t.Leads target ∧
        t.file? (t.destination source) = some content ∧
        Within [t.destination source, t.destination target] t t' ∧
        t'.find? (t.destination source) = none ∧
        t'.file? (t.destination target) = some content := by
  cases renamed : t.rename? source target with
  | none => exact .inl (attempt_of_none (·.rename? source target) renamed)
  | some t' =>
    obtain ⟨leads, leads', free, content, there, rfl⟩ := (rename?_eq_some apart).mp renamed
    exact .inr ⟨content, _, attempt_of_some (·.rename? source target) renamed, leads, leads',
      there, within_move apart there free⟩

/-- Nothing keeps a file from being moved if both paths lead and no directory is in the way. -/
theorem rename_succeeds {source target : String}
    (apart : t.destination source ≠ t.destination target) (leads : t.Leads source)
    (leads' : t.Leads target) {content : ByteArray}
    (there : t.file? (t.destination source) = some content)
    (free : t.isDirectory (t.destination target) = false) :
    ∃ t', disk.rename source target t = (true, t') ∧
      Within [t.destination source, t.destination target] t t' ∧
      t'.find? (t.destination source) = none ∧
      t'.file? (t.destination target) = some content :=
  ⟨_, attempt_of_some (·.rename? source target)
    ((rename?_eq_some apart).mpr ⟨leads, leads', free, content, there, rfl⟩),
    within_move apart there free⟩

theorem remove_cases (t : FileTree) (path : String) :
    (disk.remove path t).2 = t ∧
        ¬ (t.Leads path ∧ ∃ content, t.file? (t.destination path) = some content) ∨
      Within [t.destination path] t (disk.remove path t).2 ∧
        (disk.remove path t).2.file? (t.destination path) = none := by
  change (t.remove? path).getD t = t ∧ _ ∨
    Within [t.destination path] t ((t.remove? path).getD t) ∧
      ((t.remove? path).getD t).file? (t.destination path) = none
  cases removed : t.remove? path with
  | none =>
    refine .inl ⟨rfl, fun ⟨leads, there⟩ => ?_⟩
    rw [remove?_eq_some.mpr ⟨leads, there, rfl⟩] at removed
    cases removed
  | some t' =>
    obtain ⟨leads, ⟨content, there⟩, rfl⟩ := remove?_eq_some.mp removed
    have free := isDirectory_of_file? there
    exact .inr ⟨within_erase free, file?_erase free⟩

theorem isFile_eq_true {path : String} :
    (disk.isFile path t).1 = true ↔
      t.Leads path ∧ ∃ content, t.file? (t.destination path) = some content := by
  change (t.content? path).isSome = true ↔ _
  rw [Option.isSome_iff_exists]
  simp only [content?_eq_some, exists_and_left]

end Tablecast.Storage
