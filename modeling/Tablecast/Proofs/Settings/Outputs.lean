import Tablecast.Proofs.Artifact.Render
import Tablecast.Proofs.Run
import Tablecast.Proofs.Storage.Sibling

/-!
# Outputs that share a file

An output takes three files: its own, and the temporary and the backup beside it. Settings pass if
the paths of their two outputs differ component by component. That keeps the six files apart only
among paths that begin alike and do not go up, and not even there if one output lies where the
other has its temporary or its backup.

* `Slot.apart_iff`: when the files of two outputs are six;
* `directory_eq_iff`: when the components of two paths tell whether their directories are one;
* `Settings.outputs_apart_iff`: when the outputs of settings that pass share no file.
-/

namespace Tablecast

namespace Storage

/-! ## Two slots -/

/-- Neither name is the other one with the extension of a temporary or a backup. -/
def NoSiblings (n n' : String) : Prop :=
  ∀ e ∈ ["tmp", "bak"], n ≠ n' ++ "." ++ e ∧ n' ≠ n ++ "." ++ e

instance (n n' : String) : Decidable (NoSiblings n n') :=
  inferInstanceAs (Decidable (∀ _ ∈ _, _))

theorem Slot.output_eq_iff {s s' : Slot} :
    s.output = s'.output ↔ s.directory = s'.directory ∧ s.name = s'.name := by
  simp [output]

theorem Slot.beside_eq_iff {s s' : Slot} {e : String} :
    s.beside e = s'.beside e ↔ s.directory = s'.directory ∧ s.name = s'.name := by
  simp [beside]

theorem Slot.output_eq_beside {s s' : Slot} {e : String} :
    s.output = s'.beside e ↔ s.directory = s'.directory ∧ s.name = s'.name ++ "." ++ e := by
  simp [output, beside]

theorem Slot.beside_eq_output {s s' : Slot} {e : String} :
    s.beside e = s'.output ↔ s.directory = s'.directory ∧ s'.name = s.name ++ "." ++ e := by
  rw [eq_comm, output_eq_beside, eq_comm (a := s.directory)]

/-- The files that a slot and its siblings take. -/
def Slot.files (s : Slot) : List Location := [s.output, s.beside "tmp", s.beside "bak"]

theorem SlotOf.footprint {t : FileTree} {path : String} {s : Slot} (h : SlotOf t path s) :
    t.footprint path = s.files := by
  rw [FileTree.footprint, FileTree.siblings, h.output, h.beside "tmp" (by decide) (by decide),
    h.beside "bak" (by decide) (by decide)]
  rfl

theorem Slot.files_nodup (s : Slot) : s.files.Nodup := by
  have tmp := s.output_ne_beside "tmp"
  have bak := s.output_ne_beside "bak"
  have between := s.tmp_ne_bak s
  simp [files, tmp, bak, between]

/-- **Two slots take six files** unless they lie in one directory and have one name, or one has the
name of a sibling of the other. -/
theorem Slot.apart_iff {m w : Slot} :
    (m.files ++ w.files).Nodup ↔
      m.directory ≠ w.directory ∨ m.name ≠ w.name ∧ NoSiblings m.name w.name := by
  have between : (m.files ++ w.files).Nodup ↔ ∀ l ∈ m.files, ∀ k ∈ w.files, l ≠ k := by
    rw [List.nodup_append]
    exact ⟨fun h => h.2.2, fun h => ⟨m.files_nodup, w.files_nodup, h⟩⟩
  have tmp := m.tmp_ne_bak w
  have bak := (w.tmp_ne_bak m).symm
  rw [between]
  simp only [files, List.forall_mem_cons, ne_eq, List.not_mem_nil, false_imp_iff, implies_true,
    and_true, output_eq_iff, beside_eq_iff, output_eq_beside, beside_eq_output, tmp, bak,
    not_false_eq_true, NoSiblings]
  by_cases dir : m.directory = w.directory
  · simp only [dir, true_and, not_true_eq_false, false_or]
    grind
  · simp only [dir, false_and, not_false_eq_true, and_self, true_or]

/-! ## Directories -/

open Tablecast.Path (splitHead components)
open FileTree (follow)

/-- Where the directory of a path lies. -/
def FileTree.directory (t : FileTree) (path : String) : Location := (t.destination path).dropLast

theorem SlotOf.directory_eq {t : FileTree} {path : String} {s : Slot} (h : SlotOf t path s) :
    t.directory path = s.directory := by
  rw [FileTree.directory, h.output, Slot.output, List.dropLast_concat]

/-- The names between slashes, without the empty ones and the points. -/
def bodyNames (body : List Char) : List String :=
  ((Text.pieces (· == '/') body).filter fun n => !(n == [] || n == ['.'])).map .ofList

/-- The components of a path behind what is kept at its start. -/
def pathBody (path : String) : List String := bodyNames (splitHead path.toList).2

/-- Two paths that begin alike, at the root or not and with a point or not, and do not go up. -/
structure Comparable (p q : String) : Prop where
  start : (splitHead p.toList).1 = (splitHead q.toList).1
  level : ".." ∉ components p
  level' : ".." ∉ components q

theorem components_eq (path : String) :
    components path = (if (splitHead path.toList).1.isEmpty then []
      else [.ofList (splitHead path.toList).1]) ++ pathBody path := rfl

/-- Without two points among them, names lead further down one by one. -/
theorem walk_level {l : Location} {body : List Char}
    (level : ['.', '.'] ∉ Text.pieces (· == '/') body) : walk l body = l ++ bodyNames body := by
  unfold walk bodyNames
  generalize Text.pieces (· == '/') body = names at level
  induction names generalizing l with
  | nil => simp
  | cons n names ih =>
    obtain ⟨notUp, later⟩ := not_or.mp (mt List.mem_cons.mpr level)
    by_cases empty : n = []
    · simpa [empty] using ih later
    by_cases point : n = ['.']
    · simpa [point, show follow l (.ofList ['.']) = l from rfl] using ih (l := l) later
    · have step : follow l (.ofList n) = l ++ [.ofList n] := by
        have notPoint : String.ofList n ≠ "." := fun h =>
          point (by simpa using congrArg String.toList h)
        have notPoints : String.ofList n ≠ ".." := fun h =>
          notUp (by simpa using (congrArg String.toList h).symm)
        rw [follow, if_neg notPoint, if_neg notPoints]
      have deeper := ih (l := l ++ [.ofList n]) later
      rw [← List.append_cons] at deeper
      simpa [empty, point, step] using deeper

theorem level_pieces {path : String} (level : ".." ∉ components path) :
    ['.', '.'] ∉ Text.pieces (· == '/') (splitHead path.toList).2 := by
  intro up
  refine level ?_
  rw [components_eq]
  refine List.mem_append_right _ (List.mem_map.mpr ⟨['.', '.'], ?_, rfl⟩)
  exact List.mem_filter.mpr ⟨up, rfl⟩

theorem destination_level {path : String} (level : ".." ∉ components path) (t : FileTree) :
    t.destination path = t.start path ++ pathBody path := by
  rw [destination_eq_walk_body, walk_level (level_pieces level)]
  rfl

/-- The last component of a path is the name of its file. -/
theorem exists_pathBody {path name : String} (named : Path.fileName? path = some name)
    (level : ".." ∉ components path) : ∃ before, pathBody path = before ++ [name] := by
  obtain ⟨last, isName⟩ := fileName?_eq_some named
  have body : walk [] (splitHead path.toList).2 = pathBody path := walk_level (level_pieces level)
  rw [walk_splitName, last, walk_name isName] at body
  exact ⟨_, body.symm⟩

theorem start_eq {p q : String} (same : (splitHead p.toList).1 = (splitHead q.toList).1)
    (t : FileTree) : t.start p = t.start q := by
  apply start_congr
  rw [← absolute_iff p.toList List.nil_prefix, ← absolute_iff q.toList List.nil_prefix, same]

/-- The components of comparable paths tell whether they lie in one directory. -/
theorem Comparable.directory_eq_iff {p q name name' : String} (h : Comparable p q)
    (named : Path.fileName? p = some name) (named' : Path.fileName? q = some name')
    (t : FileTree) :
    t.directory p = t.directory q ↔ (components p).dropLast = (components q).dropLast := by
  obtain ⟨a, body⟩ := exists_pathBody named h.level
  obtain ⟨b, body'⟩ := exists_pathBody named' h.level'
  simp only [FileTree.directory, destination_level h.level, destination_level h.level',
    start_eq h.start, components_eq, h.start, body, body', ← List.append_assoc,
    List.dropLast_concat, List.append_cancel_left_eq]

/-- Comparable paths are the same if they lie in one directory and have one name. -/
theorem Comparable.components_eq {p q name : String} (h : Comparable p q)
    (named : Path.fileName? p = some name) (named' : Path.fileName? q = some name)
    (same : (components p).dropLast = (components q).dropLast) : components p = components q := by
  obtain ⟨a, body⟩ := exists_pathBody named h.level
  obtain ⟨b, body'⟩ := exists_pathBody named' h.level'
  simp only [Storage.components_eq, body, body', ← List.append_assoc,
    List.dropLast_concat] at same ⊢
  rw [same]

/-! ## The outputs of settings -/

theorem SlotOf.apart_iff {p q : String} {m w : Slot} {t : FileTree} (model : SlotOf t p m)
    (wire : SlotOf t q w) :
    t.Apart [p, q] ↔
      t.directory p ≠ t.directory q ∨ m.name ≠ w.name ∧ NoSiblings m.name w.name := by
  have files : [p, q].flatMap t.footprint = m.files ++ w.files := by
    rw [List.flatMap_cons, List.flatMap_singleton, model.footprint, wire.footprint]
  rw [FileTree.Apart, files, Slot.apart_iff, model.directory_eq, wire.directory_eq]

end Storage

open Storage
open FileTree (disk)
open Tablecast.Path (components)

/-- **When the outputs of settings that pass share no file.** The six files are different if the
outputs lie in different directories, or neither has the name of the other or of a sibling of it.
Between comparable paths, where settings pass only if the paths lead to different files, it is left
that neither is a sibling of the other. -/
theorem Settings.outputs_apart_iff {s : Settings} {m w : String} (valid : s.validate = .ok ())
    (model : Path.fileName? s.modelOutput = some m) (wire : Path.fileName? s.wireOutput = some w)
    (t : FileTree) :
    (t.Apart s.outputPaths ↔
      t.directory s.modelOutput ≠ t.directory s.wireOutput ∨ m ≠ w ∧ NoSiblings m w) ∧
    (Comparable s.modelOutput s.wireOutput →
      (t.Apart s.outputPaths ↔
        (components s.modelOutput).dropLast ≠ (components s.wireOutput).dropLast ∨
          NoSiblings m w)) := by
  have apart := (slotOf_fileName t model).apart_iff (slotOf_fileName t wire)
  refine ⟨apart, fun comparable => apart.trans ?_⟩
  rw [ne_eq, comparable.directory_eq_iff model wire]
  refine or_congr_right' fun same => and_iff_right ?_
  rintro rfl
  have differ := (Settings.validate_eq_ok.mp valid).1
  exact differ (comparable.components_eq model wire (not_not.mp same))

/-- The initial outputs lie in one directory, and neither is a sibling of the other. -/
theorem initial_outputs_apart :
    Settings.initial.validate = .ok () ∧
      Comparable Settings.initial.modelOutput Settings.initial.wireOutput ∧
      blockedTree.Apart Settings.initial.outputPaths := by
  have valid : Settings.initial.validate = .ok () := by decide +kernel
  have model : Path.fileName? Settings.initial.modelOutput = some "model.rs" := by decide +kernel
  have wire : Path.fileName? Settings.initial.wireOutput = some "orm.proto" := by decide +kernel
  have comparable : Comparable Settings.initial.modelOutput Settings.initial.wireOutput :=
    ⟨by decide +kernel, by decide +kernel, by decide +kernel⟩
  refine ⟨valid, comparable, ?_⟩
  rw [(Settings.outputs_apart_iff valid model wire blockedTree).2 comparable]
  exact .inr (by decide +kernel)

/-- One file under two spellings. -/
def dottedSettings : Settings :=
  { Settings.initial with modelOutput := "./orm.out", wireOutput := "orm.out" }

def dottedTree : FileTree where
  entries := [
    (["work"], .directory),
    (["work", "orm.out"], .file "// before".toUTF8),
    (["work", "schema.json"], .file "\x7b\"databases\":[]\x7d".toUTF8),
    (["work", "settings.toml"], .file
      "model_output = \"./orm.out\"\nwire_output = \"orm.out\"\n".toUTF8)]
  workingDirectory := ["work"]

/-- The settings pass, both outputs are one file, and a run that fails leaves another text in it. -/
theorem dottedTree_shares_output :
    dottedSettings.validate = .ok () ∧
      Path.fileName? dottedSettings.modelOutput = some "orm.out" ∧
      Path.fileName? dottedSettings.wireOutput = some "orm.out" ∧
      dottedTree.destination dottedSettings.modelOutput =
        dottedTree.destination dottedSettings.wireOutput ∧
      ¬ dottedTree.Apart dottedSettings.outputPaths ∧
      Run.settings? ["--config", "settings.toml", "schema.json"] dottedTree =
        some dottedSettings ∧
      (run disk ["--config", "settings.toml", "schema.json"] dottedTree).1.exitCode ≠ 0 ∧
      (run disk ["--config", "settings.toml", "schema.json"] dottedTree).2.file?
        ["work", "orm.out"] ≠ some "// before".toUTF8 := by
  decide +kernel

end Tablecast
