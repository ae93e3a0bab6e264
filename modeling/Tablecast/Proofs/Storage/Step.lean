import Tablecast.Proofs.Storage.Disk
import Tablecast.Proofs.Storage.Footprint

/-!
# Steps on an output

Staging, publishing and taking back change nothing outside the footprint of their output and lead
from one of its states to another, whether they fail or not.

* `stage_cases`: a spared output waits, or is spared as before;
* `publish_cases`: a waiting output is placed, or waits as before;
* `Waiting.remove_temporary`, `withdraw_spec`: waiting and placed outputs are spared again.
-/

namespace Tablecast.Storage

open FileTree

variable {t t₀ : FileTree} {outputs : List Output}

/-! ## Staging -/

theorem prepare_within (t : FileTree) (path : String) :
    Within [] t (disk.prepare path t).2 := by
  unfold Disk.prepare
  cases Path.parent? path with
  | none => exact .refl [] t
  | some parent =>
    by_cases empty : parent = ""
    · simp only [empty]
      exact .refl [] t
    · simp only [empty, if_false]
      exact within_makeDirectories t parent

theorem stage_eq (o : Output) (t : FileTree) :
    disk.stage o t =
      match disk.prepare o.path t with
      | (false, t') => (.error (.unwritable o.path), t')
      | (true, t') =>
        match Path.sibling? o.path "tmp" with
        | none => (.error (.invalidOutput o.path), t')
        | some temporary =>
          match disk.write temporary o.text t' with
          | (true, t'') => (.ok ⟨temporary, o.path⟩, t'')
          | (false, t'') => (.error (.unwritable o.path), (disk.remove temporary t'').2) := by
  unfold Disk.stage
  rw [bind_apply]
  rcases disk.prepare o.path t with ⟨_ | _, t'⟩
  · rfl
  · cases Path.sibling? o.path "tmp" with
    | none => rfl
    | some temporary =>
      simp only [if_true]
      rw [bind_apply]
      rcases disk.write temporary o.text t' with ⟨_ | _, t''⟩ <;> rfl

/-- An output is spared once its temporary is gone, if nothing else of it is new. -/
theorem spared_of_temporary_gone {path temporary : String} {t' : FileTree}
    (nodup : (t₀.footprint path).Nodup)
    (sibling : Path.sibling? path "tmp" = some temporary)
    (start : t.workingDirectory = t₀.workingDirectory)
    (output : t.file? (t₀.destination path) = t₀.file? (t₀.destination path))
    (backup : ∀ l ∈ t₀.beside path "bak", NothingNew t₀ t l)
    (within : Within [t₀.destination temporary] t t')
    (gone : t'.file? (t₀.destination temporary) = none) :
    Within (t₀.footprint path) t t' ∧ Spared t₀ path t' := by
  obtain ⟨tmp_apart, -, between⟩ := footprint_apart nodup
  simp only [beside_eq sibling, List.mem_singleton, forall_eq] at tmp_apart between
  refine ⟨within.mono (by simpa using mem_footprint (.inl rfl) sibling), ?_⟩
  refine ⟨within.workingDirectory.trans start, ?_, fun l hl => ?_⟩
  · rw [within.file _ (by simpa using tmp_apart), output]
  · rcases List.mem_append.mp hl with hl | hl
    · exact nothingNew_beside sibling gone l hl
    · exact (backup l hl).elsewhere within (by simpa using (between l hl).symm)

/-- Removing what may lie beside an output as its temporary leaves nothing new there. -/
theorem Spared.remove_temporary {path temporary : String} (h : Spared t₀ path t)
    (nodup : (t₀.footprint path).Nodup)
    (sibling : Path.sibling? path "tmp" = some temporary) :
    Within (t₀.footprint path) t (disk.remove temporary t).2 ∧
      Spared t₀ path (disk.remove temporary t).2 := by
  rcases remove_cases t temporary with ⟨same, -⟩ | ⟨within, gone⟩
  · rw [same]
    exact ⟨.refl _ t, h⟩
  · rw [destination_eq h.start] at within gone
    exact spared_of_temporary_gone nodup sibling h.start h.output
      (fun l hl => h.siblings l (List.mem_append_right _ hl)) within gone

theorem Waiting.remove_temporary {s : Staged} (h : Waiting t₀ outputs s t)
    (nodup : (t₀.footprint s.path).Nodup) :
    Within (t₀.footprint s.path) t (disk.remove s.temporary t).2 ∧
      Spared t₀ s.path (disk.remove s.temporary t).2 := by
  rcases remove_cases t s.temporary with ⟨-, kept⟩ | ⟨within, gone⟩
  · obtain ⟨o, -, -, text⟩ := h.text
    rw [destination_eq h.start] at kept
    exact absurd ⟨h.leads, _, text⟩ kept
  · rw [destination_eq h.start] at within gone
    exact spared_of_temporary_gone nodup h.temporary h.start h.output h.backup within gone

/-- Staging leaves a spared output waiting, or spared if it fails. -/
theorem stage_cases {o : Output} (ho : o ∈ outputs) (nodup : (t₀.footprint o.path).Nodup)
    (spared : Spared t₀ o.path t) :
    (∃ s t', disk.stage o t = (.ok s, t') ∧ s.path = o.path ∧
        Within (t₀.footprint o.path) t t' ∧ Waiting t₀ outputs s t') ∨
      ∃ e t', disk.stage o t = (.error e, t') ∧
        Within (t₀.footprint o.path) t t' ∧ Spared t₀ o.path t' := by
  have prepared := (prepare_within t o.path).mono (List.nil_subset (t₀.footprint o.path))
  have ready := spared.elsewhere (prepare_within t o.path) (fun _ _ => List.not_mem_nil)
  rw [stage_eq]
  generalize disk.prepare o.path t = result at prepared ready ⊢
  rcases result with ⟨_ | _, t₁⟩
  · exact .inr ⟨_, t₁, rfl, prepared, ready⟩
  · cases sibling : Path.sibling? o.path "tmp" with
    | none => exact .inr ⟨_, t₁, rfl, prepared, ready⟩
    | some temporary =>
      have place : t₁.destination temporary = t₀.destination temporary :=
        destination_eq ready.start temporary
      have inside : [t₀.destination temporary] ⊆ t₀.footprint o.path := by
        simpa using mem_footprint (.inl rfl) sibling
      obtain ⟨tmp_apart, -, between⟩ := footprint_apart nodup
      simp only [beside_eq sibling, List.mem_singleton, forall_eq] at tmp_apart between
      dsimp only
      rcases write_cases t₁ temporary o.text with failed | ⟨t₂, written, leads, within, text⟩
      · rw [failed]
        obtain ⟨within, removed⟩ := ready.remove_temporary nodup sibling
        exact .inr ⟨_, _, rfl, prepared.trans within, removed⟩
      · rw [written]
        rw [place] at within text
        refine .inl ⟨_, t₂, rfl, rfl, prepared.trans (within.mono inside), ?_⟩
        refine ⟨⟨within.workingDirectory.trans ready.start, sibling, within.leads leads,
          o, ho, rfl, text⟩, ?_, fun l hl => ?_⟩
        · rw [within.file _ (by simpa using tmp_apart), ready.output]
        · refine (ready.siblings l (List.mem_append_right _ hl)).elsewhere within ?_
          simpa using (between l hl).symm

/-! ## Publishing -/

theorem setAside_eq (path : String) (t : FileTree) :
    disk.setAside path t =
      if (disk.isFile path t).1 = true then
        match Path.sibling? path "bak" with
        | none => (none, t)
        | some backup =>
          match disk.rename path backup t with
          | (true, t') => (some (some backup), t')
          | (false, t') => (none, t')
      else (some none, t) := by
  have unchanged : (disk.isFile path t).2 = t := rfl
  unfold Disk.setAside
  rw [bind_apply, unchanged]
  cases (disk.isFile path t).1 with
  | false => rfl
  | true =>
    simp only [if_true]
    cases Path.sibling? path "bak" with
    | none => rfl
    | some backup =>
      dsimp only
      rw [bind_apply]
      rcases disk.rename path backup t with ⟨_ | _, t'⟩ <;> rfl

theorem publish_eq (s : Staged) (t : FileTree) :
    disk.publish s t =
      match disk.setAside s.path t with
      | (none, t') => (none, t')
      | (some backup, t') =>
        match disk.rename s.temporary s.path t' with
        | (true, t'') => (some ⟨s.path, backup⟩, t'')
        | (false, t'') =>
          match backup with
          | some b => (none, (disk.rename b s.path t'').2)
          | none => (none, t'') := by
  unfold Disk.publish
  rw [bind_apply]
  rcases disk.setAside s.path t with ⟨_ | backup, t'⟩
  · rfl
  · dsimp only
    rw [bind_apply]
    rcases disk.rename s.temporary s.path t' with ⟨_ | _, t''⟩
    · cases backup <;> rfl
    · rfl

/-- Setting an output aside fails and changes nothing, or there was no file at its path, or the
file now lies beside it. -/
theorem setAside_cases {path : String} (start : t.workingDirectory = t₀.workingDirectory)
    (output : t.file? (t₀.destination path) = t₀.file? (t₀.destination path))
    (nodup : (t₀.footprint path).Nodup) :
    disk.setAside path t = (none, t) ∨
      disk.setAside path t = (some none, t) ∧
        (t.Leads path → t₀.file? (t₀.destination path) = none) ∨
      ∃ b t', disk.setAside path t = (some (some b), t') ∧ Aside t₀ path b t' ∧
        Within [t₀.destination path, t₀.destination b] t t' ∧
        t'.isDirectory (t₀.destination path) = false := by
  rw [setAside_eq]
  by_cases file : (disk.isFile path t).1 = true
  · rw [if_pos file]
    cases sibling : Path.sibling? path "bak" with
    | none => exact .inl rfl
    | some b =>
      have apart : t.destination path ≠ t.destination b := by
        rw [destination_eq start, destination_eq start]
        exact (footprint_apart nodup).2.1 _ (by simp [beside_eq sibling])
      dsimp only
      rcases rename_cases apart with
        failed | ⟨content, t', moved, leads, leads_b, there, within, gone, kept⟩
      · rw [failed]
        exact .inl rfl
      · simp only [destination_eq start] at there within gone kept
        rw [moved]
        refine .inr (.inr ⟨b, t', rfl, ?_, within, isDirectory_of_find?_eq_none gone⟩)
        exact ⟨within.workingDirectory.trans start, sibling, within.leads leads,
          within.leads leads_b, content, output ▸ there, kept⟩
  · rw [if_neg file]
    rw [isFile_eq_true, destination_eq start, output] at file
    refine .inr (.inl ⟨rfl, fun leads => ?_⟩)
    exact Option.eq_none_iff_forall_ne_some.mpr fun c found => file ⟨leads, c, found⟩

/-- A forerunner can be moved back. -/
theorem Aside.restore {path backup : String} (h : Aside t₀ path backup t)
    (nodup : (t₀.footprint path).Nodup) (free : t.isDirectory (t₀.destination path) = false) :
    ∃ t', disk.rename backup path t = (true, t') ∧
      Within [t₀.destination backup, t₀.destination path] t t' ∧
      t'.file? (t₀.destination backup) = none ∧
      t'.file? (t₀.destination path) = t₀.file? (t₀.destination path) := by
  obtain ⟨content, before, there⟩ := h.forerunner
  have apart : t.destination backup ≠ t.destination path := by
    rw [destination_eq h.start, destination_eq h.start]
    exact ((footprint_apart nodup).2.1 _ (by simp [beside_eq h.sibling])).symm
  rw [← destination_eq h.start] at there free
  obtain ⟨t', restored, within, gone, back⟩ :=
    rename_succeeds apart h.leads_backup h.leads there free
  simp only [destination_eq h.start] at within gone back
  exact ⟨t', restored, within, file?_of_find?_eq_none gone, back.trans before.symm⟩

/-- Moving a text into place changes nothing, or the output has the text. -/
theorem Ready.place {s : Staged} (h : Ready t₀ outputs s t)
    (nodup : (t₀.footprint s.path).Nodup) :
    disk.rename s.temporary s.path t = (false, t) ∨
      ∃ t', disk.rename s.temporary s.path t = (true, t') ∧ t.Leads s.path ∧
        Within [t₀.destination s.temporary, t₀.destination s.path] t t' ∧
        t'.file? (t₀.destination s.temporary) = none ∧
        ∃ o ∈ outputs, o.path = s.path ∧
          t'.file? (t₀.destination s.path) = some o.text.toUTF8 := by
  have apart : t.destination s.temporary ≠ t.destination s.path := by
    rw [destination_eq h.start, destination_eq h.start]
    exact ((footprint_apart nodup).1 _ (by simp [beside_eq h.temporary])).symm
  rcases rename_cases apart with
    failed | ⟨content, t', moved, -, leads, there, within, gone, placed⟩
  · exact .inl failed
  · simp only [destination_eq h.start] at there gone within placed
    obtain ⟨o, ho, path, text⟩ := h.text
    obtain rfl := Option.some.inj (there.symm.trans text)
    exact .inr ⟨t', moved, leads, within, file?_of_find?_eq_none gone, o, ho, path, placed⟩

/-- Publishing a waiting text puts it in place, or leaves it waiting and its forerunner back. -/
theorem publish_cases {s : Staged} (h : Waiting t₀ outputs s t)
    (nodup : (t₀.footprint s.path).Nodup) :
    (∃ p t', disk.publish s t = (some p, t') ∧ p.path = s.path ∧
        Within (t₀.footprint s.path) t t' ∧ Placed t₀ outputs p t') ∨
      ∃ t', disk.publish s t = (none, t') ∧
        Within (t₀.footprint s.path) t t' ∧ Waiting t₀ outputs s t' := by
  obtain ⟨tmp_apart, bak_apart, between⟩ := footprint_apart nodup
  simp only [beside_eq h.temporary, List.mem_singleton, forall_eq] at tmp_apart between
  have own := destination_mem_footprint t₀ s.path
  have tmp_mem := mem_footprint (t := t₀) (.inl rfl) h.temporary
  rw [publish_eq]
  rcases setAside_cases h.start h.output nodup with failed | ⟨nothing, before⟩ |
    ⟨b, t₁, set_aside, aside, within, free⟩
  · rw [failed]
    exact .inr ⟨t, rfl, .refl _ t, h⟩
  · -- no file stood at the output, so the text takes a free place
    rw [nothing]
    dsimp only
    rcases h.place nodup with failed | ⟨t', moved, leads, within, gone, text⟩
    · rw [failed]
      exact .inr ⟨t, rfl, .refl _ t, h⟩
    · rw [moved]
      refine .inl ⟨_, t', rfl, rfl, within.mono (by simp [own, tmp_mem]), ?_⟩
      refine ⟨within.workingDirectory.trans h.start, within.leads leads, text,
        nothingNew_beside h.temporary gone, nofun, fun _ => ⟨before leads, fun l hl => ?_⟩⟩
      refine (h.backup l hl).elsewhere within ?_
      simp [(between l hl).symm, (bak_apart l hl).symm]
  · have bak_mem := mem_footprint (t := t₀) (.inr rfl) aside.sibling
    simp only [beside_eq aside.sibling, List.mem_singleton, forall_eq] at bak_apart between
    have ready : Ready t₀ outputs s t₁ :=
      h.toReady.elsewhere within (by simp [tmp_apart.symm, between])
    have inside : Within (t₀.footprint s.path) t t₁ := within.mono (by simp [own, bak_mem])
    rw [set_aside]
    dsimp only
    rcases ready.place nodup with failed | ⟨t₂, moved, -, within₂, gone, text⟩
    · -- the forerunner has left its place free and goes back to it
      obtain ⟨t₂, restored, within₂, gone, back⟩ := aside.restore nodup free
      rw [failed]
      dsimp only
      rw [restored]
      refine .inr ⟨t₂, rfl, inside.trans (within₂.mono (by simp [own, bak_mem])), ?_⟩
      exact ⟨ready.elsewhere within₂ (by simp [tmp_apart.symm, between]), back,
        nothingNew_beside aside.sibling gone⟩
    · rw [moved]
      refine .inl ⟨_, t₂, rfl, rfl, inside.trans (within₂.mono (by simp [own, tmp_mem])), ?_⟩
      refine ⟨within₂.workingDirectory.trans ready.start, within₂.leads aside.leads, text,
        nothingNew_beside h.temporary gone, ?_, nofun⟩
      rintro _ ⟨⟩
      exact aside.elsewhere within₂ (by simp [between.symm, bak_apart.symm])

/-! ## Taking back -/

theorem withdraw_eq (p : Published) (t : FileTree) :
    (disk.withdraw p t).2 =
      match p.backup with
      | some b => (disk.rename b p.path t).2
      | none => (disk.remove p.path t).2 := by
  unfold Disk.withdraw
  cases p.backup with
  | some b => rfl
  | none => rfl

/-- Taking a published output back leaves it as it was. -/
theorem withdraw_spec {p : Published} (h : Placed t₀ outputs p t)
    (nodup : (t₀.footprint p.path).Nodup) :
    Within (t₀.footprint p.path) t (disk.withdraw p t).2 ∧
      Spared t₀ p.path (disk.withdraw p t).2 := by
  obtain ⟨tmp_apart, bak_apart, between⟩ := footprint_apart nodup
  have own := destination_mem_footprint t₀ p.path
  obtain ⟨o, -, -, text⟩ := h.text
  rw [withdraw_eq]
  cases backup : p.backup with
  | some b =>
    have aside := h.replaced b backup
    have bak_mem := mem_footprint (t := t₀) (.inr rfl) aside.sibling
    obtain ⟨t', restored, within, gone, back⟩ := aside.restore nodup (isDirectory_of_file? text)
    dsimp only
    rw [restored]
    refine ⟨within.mono (by simp [own, bak_mem]), within.workingDirectory.trans h.start, back, ?_⟩
    intro l hl
    rcases List.mem_append.mp hl with hl | hl
    · refine (h.temporary l hl).elsewhere within ?_
      have other := between l hl (t₀.destination b) (by simp [beside_eq aside.sibling])
      simp [other, (tmp_apart l hl).symm]
    · exact nothingNew_beside aside.sibling gone l hl
  | none =>
    obtain ⟨before, backups⟩ := h.new backup
    dsimp only
    rcases remove_cases t p.path with ⟨-, kept⟩ | ⟨within, gone⟩
    · rw [destination_eq h.start] at kept
      exact absurd ⟨h.leads, _, text⟩ kept
    · rw [destination_eq h.start] at within gone
      refine ⟨within.mono (by simp [own]), within.workingDirectory.trans h.start,
        gone.trans before.symm, fun l hl => ?_⟩
      rcases List.mem_append.mp hl with hl | hl
      · exact (h.temporary l hl).elsewhere within (by simpa using (tmp_apart l hl).symm)
      · exact (backups l hl).elsewhere within (by simpa using (bak_apart l hl).symm)

end Tablecast.Storage
