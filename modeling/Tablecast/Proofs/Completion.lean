import Tablecast.Proofs.Artifact.Render
import Tablecast.Proofs.Run
import Tablecast.Proofs.Storage.Clash
import Tablecast.Proofs.Success

/-!
# Runs that succeed

A run that succeeds has rendered the document and published both artifacts. Settings that differ in
the two paths pass, but the paths may still be such that one output takes away the other.

* `Run.generate_ok`: what a run that succeeds has read, rendered and published;
* `Settings.Clash`: when the outputs are in each other's way;
* `run_done_publishes`: what is in the tree afterwards.
-/

namespace Tablecast

open Storage FileTree

variable {t t' : FileTree}

theorem renderText_eq_ok {s : Settings} {text : String} {a : Artifacts} :
    renderText s text = .ok a ↔
      ∃ d, Document.parse text = .ok d ∧ d.render s = .ok a := by
  simp only [renderText, bind_eq_ok, mapError_eq_ok]

namespace Run

theorem renderFile_eq_ok {s : Settings} {schemaPath : String} {a : Artifacts} :
    (renderFile disk s schemaPath t).1 = .ok a ↔
      ∃ text, t.text? schemaPath = some text ∧ renderText s text = .ok a := by
  have read : (disk.read schemaPath t).1 = t.text? schemaPath := rfl
  unfold renderFile
  rw [bind_apply, read]
  cases t.text? schemaPath with
  | none => exact ⟨nofun, nofun⟩
  | some text =>
    change renderText s text = .ok a ↔ _
    simp only [Option.some_inj, exists_eq_left']

/-- A run that succeeds has settings and a document, and has published what it rendered. -/
theorem generate_ok {schemaPath : String} {configPath : Option String}
    (h : generate disk schemaPath configPath t = (.ok (), t')) :
    ∃ s text artifacts, (loadSettings disk configPath t).1 = .ok s ∧
      t.text? schemaPath = some text ∧ renderText s text = .ok artifacts ∧
      disk.publishOutputs (artifacts.outputs s) t = (.ok (), t') := by
  rw [generate_eq] at h
  cases loaded : (loadSettings disk configPath t).1 with
  | error e =>
    rw [loaded] at h
    cases h
  | ok s =>
    rw [loaded] at h
    dsimp only at h
    cases rendered : (renderFile disk s schemaPath t).1 with
    | error e =>
      rw [rendered] at h
      cases h
    | ok artifacts =>
      rw [rendered] at h
      dsimp only at h
      obtain ⟨text, read, rendering⟩ := renderFile_eq_ok.mp rendered
      cases published : disk.publishOutputs (artifacts.outputs s) t with
      | mk result t'' =>
        rw [published] at h
        cases result with
        | error fault => cases h
        | ok done =>
          cases h
          exact ⟨s, text, artifacts, rfl, read, rendering, published⟩

end Run

theorem run_done {arguments : List String} (done : (run disk arguments t).1 = .done) :
    ∃ schemaPath configPath, CommandLine.parse? arguments = some (.generate schemaPath configPath) ∧
      Run.generate disk schemaPath configPath t = (.ok (), (run disk arguments t).2) := by
  rw [run_eq] at done ⊢
  generalize CommandLine.parse? arguments = invocation at done ⊢
  rcases invocation with _ | _ | _ | ⟨schemaPath, configPath⟩
  · cases done
  · cases done
  · cases done
  · dsimp only at done ⊢
    rcases generated : Run.generate disk schemaPath configPath t with ⟨_ | ⟨⟨⟩⟩, t'⟩
    · rw [generated] at done
      cases done
    · exact ⟨schemaPath, configPath, rfl, by rw [generated]⟩

/-- One output takes away the other: the model is where the wire schema waits, or where the
forerunner of the wire schema goes, or the wire schema is where that of the model goes. -/
def Settings.Clash (s : Settings) (t : FileTree) : Prop :=
  t.destination s.modelOutput ∈ t.beside s.wireOutput "tmp" ∨
    t.destination s.modelOutput ∈ t.beside s.wireOutput "bak" ∧
      (t.file? (t.destination s.wireOutput)).isSome ∨
    t.destination s.wireOutput ∈ t.beside s.modelOutput "bak" ∧
      (t.file? (t.destination s.modelOutput)).isSome

theorem Settings.clash_iff {s : Settings} {m w : Slot} (model : SlotOf t s.modelOutput m)
    (wire : SlotOf t s.wireOutput w) : s.Clash t ↔ Files.Clash t.file? m w := by
  have tmp := wire.beside "tmp" (by decide) (by decide)
  have bak := wire.beside "bak" (by decide) (by decide)
  have bak' := model.beside "bak" (by decide) (by decide)
  simp only [Settings.Clash, Files.Clash, tmp, bak, bak', model.output, wire.output,
    List.mem_singleton]

/-- **A run that succeeds publishes both artifacts**, which it has rendered from the document by
settings that pass, if the outputs do not clash. If they do, one of the artifacts is not there.
Nothing else changes but what lies beside an output. -/
theorem run_done_publishes {arguments : List String} (done : (run disk arguments t).1 = .done) :
    ∃ schemaPath configPath s text artifacts,
      CommandLine.parse? arguments = some (.generate schemaPath configPath) ∧
      (Run.loadSettings disk configPath t).1 = .ok s ∧ s.validate = .ok () ∧
      t.text? schemaPath = some text ∧ renderText s text = .ok artifacts ∧
      (∀ l, (∀ path ∈ s.outputPaths, l ∉ t.footprint path) →
        (run disk arguments t).2.file? l = t.file? l) ∧
      ((run disk arguments t).2.file? (t.destination s.modelOutput) = some artifacts.model.toUTF8 ∧
          (run disk arguments t).2.file? (t.destination s.wireOutput) =
            some artifacts.wireSchema.toUTF8 ↔
        ¬ s.Clash t) := by
  obtain ⟨schemaPath, configPath, invoked, generated⟩ := run_done done
  obtain ⟨s, text, artifacts, loaded, read, rendered, published⟩ := Run.generate_ok generated
  obtain ⟨d, -, rendering⟩ := renderText_eq_ok.mp rendered
  have valid := (Document.render_eq_ok.mp rendering).1
  refine ⟨schemaPath, configPath, s, text, artifacts, invoked, loaded, valid, read, rendered, ?_⟩
  obtain ⟨replacements, fits, within, files⟩ := publishOutputs_ok published
  refine ⟨fun l outside => within.file l ?_, ?_⟩
  · intro inside
    obtain ⟨path, hpath, hl⟩ := List.mem_flatMap.mp inside
    exact outside path hpath hl
  · obtain _ | ⟨model, _ | ⟨wire, ⟨⟩⟩⟩ := fits
    have kept := Files.both_kept_iff files
    rw [model.text, wire.text, ← model.slot.output, ← wire.slot.output,
      ← Settings.clash_iff model.slot wire.slot] at kept
    exact kept

/-- Both artifacts are there from before. -/
def publishedTree : FileTree where
  entries := [
    (["work"], .directory),
    (["work", "generated"], .directory),
    (["work", "generated", "model.rs"], .file "// before".toUTF8),
    (["work", "generated", "orm.proto"], .file "// before".toUTF8),
    (["work", "schema.json"], .file "\x7b\"databases\":[]\x7d".toUTF8)]
  workingDirectory := ["work"]

theorem publishedTree_replaced :
    (run disk ["schema.json"] publishedTree).1 = .done ∧
      ∃ a, renderText .initial "\x7b\"databases\":[]\x7d" = .ok a ∧
        (run disk ["schema.json"] publishedTree).2.file? ["work", "generated", "model.rs"] =
          some a.model.toUTF8 ∧
        (run disk ["schema.json"] publishedTree).2.file? ["work", "generated", "orm.proto"] =
          some a.wireSchema.toUTF8 := by
  have done : (run disk ["schema.json"] publishedTree).1 = .done := by decide +kernel
  refine ⟨done, ?_⟩
  obtain ⟨schemaPath, configPath, s, text, a, invoked, loaded, -, read, rendered, -, published⟩ :=
    run_done_publishes done
  have invocation : CommandLine.parse? ["schema.json"] = some (.generate "schema.json" none) := by
    decide +kernel
  cases invoked.symm.trans invocation
  cases loaded
  have schema : publishedTree.text? "schema.json" = some "\x7b\"databases\":[]\x7d" := by
    decide +kernel
  cases read.symm.trans schema
  have free : ¬ Settings.initial.Clash publishedTree := by
    unfold Settings.Clash
    decide +kernel
  have model : publishedTree.destination Settings.initial.modelOutput =
      ["work", "generated", "model.rs"] := by
    decide +kernel
  have wire : publishedTree.destination Settings.initial.wireOutput =
      ["work", "generated", "orm.proto"] := by
    decide +kernel
  rw [model, wire] at published
  exact ⟨a, rendered, published.mpr free⟩

/-- The model goes where the wire schema waits. -/
def clashingSettings : Settings :=
  { Settings.initial with modelOutput := "orm.proto.tmp", wireOutput := "orm.proto" }

def clashingTree : FileTree where
  entries := [
    (["work"], .directory),
    (["work", "schema.json"], .file "\x7b\"databases\":[]\x7d".toUTF8),
    (["work", "settings.toml"], .file
      "model_output = \"orm.proto.tmp\"\nwire_output = \"orm.proto\"\n".toUTF8)]
  workingDirectory := ["work"]

/-- The settings pass and the run succeeds, but there is no model. -/
theorem clashingTree_loses_model :
    clashingSettings.validate = .ok () ∧
      Run.settings? ["--config", "settings.toml", "schema.json"] clashingTree =
        some clashingSettings ∧
      (run disk ["--config", "settings.toml", "schema.json"] clashingTree).1 = .done ∧
      (run disk ["--config", "settings.toml", "schema.json"] clashingTree).2.file?
        (clashingTree.destination clashingSettings.modelOutput) = none := by
  rw [← Option.isNone_iff_eq_none]
  decide +kernel

end Tablecast
