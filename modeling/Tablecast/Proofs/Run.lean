import Tablecast.Proofs.Storage.Publication
import Tablecast.Run

/-!
# Runs that fail

A run touches files only to publish its outputs. Whatever it fails at, every file is as it was
before, apart from the temporaries and backups beside the outputs, and there is no new one.

* `Run.generate_error`: what a failure leaves of the outputs;
* `run_failed_keeps_files`: what it leaves of all files.
-/

namespace Tablecast

open Storage FileTree

/-- The paths at which outputs are published. -/
def Settings.outputPaths (s : Settings) : List String := [s.modelOutput, s.wireOutput]

/-- The settings that a run goes by; none if it ends before it has any. -/
def Run.settings? (arguments : List String) (t : FileTree) : Option Settings :=
  match CommandLine.parse? arguments with
  | some (.generate _ configPath) => (Run.loadSettings disk configPath t).1.toOption
  | _ => none

namespace Run

variable {t : FileTree}

theorem loadSettings_unchanged (configPath : Option String) (t : FileTree) :
    (loadSettings disk configPath t).2 = t := by
  unfold loadSettings
  cases configPath with
  | none => rfl
  | some path =>
    dsimp only
    rw [bind_apply]
    cases (disk.read path t).1 with
    | none => rfl
    | some text =>
      dsimp only
      cases Settings.read? text <;> rfl

theorem renderFile_unchanged (s : Settings) (schemaPath : String) (t : FileTree) :
    (renderFile disk s schemaPath t).2 = t := by
  unfold renderFile
  rw [bind_apply]
  cases (disk.read schemaPath t).1 <;> rfl

theorem generate_eq (schemaPath : String) (configPath : Option String) (t : FileTree) :
    generate disk schemaPath configPath t =
      match (loadSettings disk configPath t).1 with
      | .error e => (.error e, t)
      | .ok s =>
        match (renderFile disk s schemaPath t).1 with
        | .error e => (.error e, t)
        | .ok artifacts =>
          match disk.publishOutputs (artifacts.outputs s) t with
          | (published, t') => (published.mapError .ofPublication, t') := by
  unfold generate
  rw [bind_apply, loadSettings_unchanged]
  cases (loadSettings disk configPath t).1 with
  | error e => rfl
  | ok s =>
    dsimp only
    rw [bind_apply, renderFile_unchanged]
    cases (renderFile disk s schemaPath t).1 with
    | error e => rfl
    | ok artifacts => rfl

/-- A run that fails does so before it touches a file, or while it publishes its outputs. -/
theorem generate_error {schemaPath : String} {configPath : Option String} {e : RunError}
    {t' : FileTree} (failed : generate disk schemaPath configPath t = (.error e, t')) :
    t' = t ∨ ∃ s artifacts fault, (loadSettings disk configPath t).1 = .ok s ∧
      disk.publishOutputs (Artifacts.outputs artifacts s) t = (.error fault, t') := by
  rw [generate_eq] at failed
  cases loaded : (loadSettings disk configPath t).1 with
  | error e =>
    rw [loaded] at failed
    cases failed
    exact .inl rfl
  | ok s =>
    rw [loaded] at failed
    dsimp only at failed
    cases rendered : (renderFile disk s schemaPath t).1 with
    | error e =>
      rw [rendered] at failed
      cases failed
      exact .inl rfl
    | ok artifacts =>
      rw [rendered] at failed
      dsimp only at failed
      cases published : disk.publishOutputs (artifacts.outputs s) t with
      | mk result t'' =>
        rw [published] at failed
        cases result with
        | ok done => cases failed
        | error fault =>
          cases failed
          exact .inr ⟨s, artifacts, fault, rfl, published⟩

end Run

theorem run_eq (arguments : List String) (t : FileTree) :
    run disk arguments t =
      match CommandLine.parse? arguments with
      | none => (.usage, t)
      | some .help => (.help, t)
      | some .version => (.version, t)
      | some (.generate schemaPath configPath) =>
        match Run.generate disk schemaPath configPath t with
        | (.ok (), t') => (.done, t')
        | (.error e, t') => (.failed e, t') := by
  unfold run
  rcases CommandLine.parse? arguments with _ | _ | _ | ⟨schemaPath, configPath⟩
  · rfl
  · rfl
  · rfl
  · dsimp only
    rw [bind_apply]
    rcases Run.generate disk schemaPath configPath t with ⟨_ | ⟨⟨⟩⟩, t'⟩ <;> rfl

theorem run_error {arguments : List String} {t : FileTree}
    (failed : (run disk arguments t).1.exitCode ≠ 0) :
    (run disk arguments t).2 = t ∨ ∃ s artifacts fault, Run.settings? arguments t = some s ∧
      disk.publishOutputs (Artifacts.outputs artifacts s) t =
        (.error fault, (run disk arguments t).2) := by
  rw [run_eq] at failed ⊢
  unfold Run.settings?
  generalize CommandLine.parse? arguments = invocation at failed ⊢
  rcases invocation with _ | _ | _ | ⟨schemaPath, configPath⟩
  · exact .inl rfl
  · exact .inl rfl
  · exact .inl rfl
  · dsimp only at failed ⊢
    cases generated : Run.generate disk schemaPath configPath t with
    | mk result t' =>
      rw [generated] at failed
      cases result with
      | ok done => exact absurd rfl failed
      | error e =>
        rcases Run.generate_error generated with same | ⟨s, artifacts, fault, loaded, published⟩
        · exact .inl same
        · exact .inr ⟨s, artifacts, fault, by rw [loaded]; rfl, published⟩

/-- **A failed run changes no file.** A location keeps its file, unless a temporary or a backup of
an output lies there, and such a file is kept or gone. Nothing is new but directories. The paths of
the outputs and of what lies beside them have to lead to six places. -/
theorem run_failed_keeps_files {arguments : List String} {t : FileTree}
    (failed : (run disk arguments t).1.exitCode ≠ 0)
    (apart : ∀ s, Run.settings? arguments t = some s → t.Apart s.outputPaths) :
    (∀ l, (∀ s, Run.settings? arguments t = some s → ∀ path ∈ s.outputPaths,
        l ∉ t.siblings path) → (run disk arguments t).2.file? l = t.file? l) ∧
      (∀ l, NothingNew t (run disk arguments t).2 l) ∧
      ∀ l, t.isDirectory l = true → (run disk arguments t).2.isDirectory l = true := by
  rcases run_error failed with same | ⟨s, artifacts, fault, loaded, published⟩
  · rw [same]
    exact ⟨fun l _ => rfl, fun l => .inr rfl, fun l hl => hl⟩
  · obtain ⟨within, spared⟩ := publishOutputs_error (apart s loaded) published
    have kept := file?_of_spared within (List.forall_mem_map.mpr spared)
    exact ⟨fun l outside => (kept l).1 (outside s loaded), fun l => (kept l).2, within.directory⟩

/-- A directory stands where the wire schema should go, beside a model from before. -/
def blockedTree : FileTree where
  entries := [
    (["work"], .directory),
    (["work", "generated"], .directory),
    (["work", "generated", "model.rs"], .file "// before".toUTF8),
    (["work", "generated", "orm.proto"], .directory),
    (["work", "schema.json"], .file "\x7b\"databases\":[]\x7d".toUTF8)]
  workingDirectory := ["work"]

theorem blockedTree_keeps_model :
    (run disk ["schema.json"] blockedTree).1.exitCode ≠ 0 ∧
      (run disk ["schema.json"] blockedTree).2.file? ["work", "generated", "model.rs"] =
        some "// before".toUTF8 := by
  have failed : (run disk ["schema.json"] blockedTree).1.exitCode ≠ 0 := by decide +kernel
  have loaded : Run.settings? ["schema.json"] blockedTree = some .initial := by decide +kernel
  have apart : blockedTree.Apart Settings.initial.outputPaths := by decide +kernel
  refine ⟨failed, ?_⟩
  have kept := (run_failed_keeps_files failed fun s hs => by
    rw [loaded] at hs
    exact Option.some.inj hs ▸ apart).1 ["work", "generated", "model.rs"] fun s hs => by
      rw [loaded] at hs
      rw [← Option.some.inj hs]
      decide +kernel
  rw [kept]
  rfl

end Tablecast
