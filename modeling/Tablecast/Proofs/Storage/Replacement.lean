import Mathlib.Data.List.Forall2
import Mathlib.Logic.Function.Basic
import Tablecast.Proofs.Storage.Publication
import Tablecast.Proofs.Storage.Sibling

/-!
# What a publication makes of the files

A publication that succeeds does to the files what `Files.replaceAll?` says, which knows neither
directories nor paths but only where the outputs and their siblings lie. No two of these places
have to differ.

* `stage_ok`, `publish_ok`, `Removable.remove`: what a step that succeeds does;
* `stageAll_ok`, `publishAll_ok`, `dropBackups_ok`: what a pass does, by induction on the outputs;
* `publishOutputs_ok`: what is left of the whole.
-/

namespace Tablecast.Storage

open FileTree

/-! ## Files -/

/-- What the files of a tree hold, by location. -/
abbrev Files := Location → Option ByteArray

/-- A text and the slot that it is published in. -/
structure Replacement where
  slot : Slot
  text : ByteArray

namespace Files

def put (f : Files) (l : Location) (content : ByteArray) : Files :=
  Function.update f l (some content)

def clear (f : Files) (l : Location) : Files := Function.update f l none

/-- What lies at `l` goes to `k`, and `l` is free. -/
def move (f : Files) (l k : Location) : Files := Function.update (f.clear l) k (f l)

def stage (f : Files) (r : Replacement) : Files := f.put (r.slot.beside "tmp") r.text

def setAside (f : Files) (s : Slot) : Files :=
  if (f s.output).isSome then f.move s.output (s.beside "bak") else f

def publish (f : Files) (s : Slot) : Files := (f.setAside s).move (s.beside "tmp") s.output

/-- Where the forerunner of an output goes, if it has one. -/
def aside (f : Files) (s : Slot) : List Location :=
  if (f s.output).isSome then [s.beside "bak"] else []

/-- Publishes what lies beside the slots, and tells where the forerunners went. -/
def publishAll? : List Slot → Files → Option (Files × List Location)
  | [], f => some (f, [])
  | s :: rest, f =>
    if (f.setAside s (s.beside "tmp")).isSome then
      (publishAll? rest (f.publish s)).map fun r => (r.1, f.aside s ++ r.2)
    else none

def replaceAll? (replacements : List Replacement) (f : Files) : Option Files :=
  (publishAll? (replacements.map (·.slot)) (replacements.foldl stage f)).map fun r =>
    r.2.foldl clear r.1

end Files

variable {t t' : FileTree}

/-- A change of one file, which is now there or gone. -/
theorem file?_eq_update {l : Location} {content : Option ByteArray} (within : Within [l] t t')
    (after : t'.file? l = content) : t'.file? = Function.update t.file? l content := by
  funext k
  by_cases same : k = l
  · rw [same, after, Function.update_self]
  · rw [Function.update_of_ne same, within.file k (by simpa using same)]

theorem file?_eq_move {l k : Location} {content : ByteArray} (before : t.file? l = some content)
    (within : Within [l, k] t t') (gone : t'.file? l = none)
    (there : t'.file? k = some content) : t'.file? = Files.move t.file? l k := by
  funext j
  rw [Files.move, Files.clear]
  by_cases target : j = k
  · rw [target, there, Function.update_self, before]
  · rw [Function.update_of_ne target]
    by_cases source : j = l
    · rw [source, gone, Function.update_self]
    · rw [Function.update_of_ne source, within.file j (by simp [source, target])]

/-! ## Steps that succeed -/

theorem SlotOf.destination_sibling {path extension sibling : String} {x : Slot}
    (h : SlotOf t path x) (known : extension = "tmp" ∨ extension = "bak")
    (beside : Path.sibling? path extension = some sibling) :
    t.destination sibling = x.beside extension := by
  have places : t.beside path extension = [x.beside extension] := by
    rcases known with rfl | rfl
    · exact h.beside "tmp" (by decide) (by decide)
    · exact h.beside "bak" (by decide) (by decide)
  rw [beside_eq beside] at places
  exact List.singleton_inj.mp places

theorem stage_ok {o : Output} {s : Staged} (h : disk.stage o t = (.ok s, t')) :
    s.path = o.path ∧ Path.sibling? o.path "tmp" = some s.temporary ∧
      Within [t.destination s.temporary] t t' ∧
      t'.file? = Files.put t.file? (t.destination s.temporary) o.text.toUTF8 := by
  have prepared := prepare_within t o.path
  rw [stage_eq] at h
  generalize disk.prepare o.path t = result at prepared h
  rcases result with ⟨_ | _, t₁⟩
  · cases h
  · cases sibling : Path.sibling? o.path "tmp" with
    | none =>
      rw [sibling] at h
      cases h
    | some temporary =>
      rw [sibling] at h
      dsimp only at h
      rcases write_cases t₁ temporary o.text with failed | ⟨t₂, written, -, within, text⟩
      · rw [failed] at h
        cases h
      · rw [written] at h
        cases h
        have same : t₁.file? = t.file? := funext fun l => prepared.file l List.not_mem_nil
        rw [prepared.destination] at within text
        refine ⟨rfl, rfl, (prepared.mono (List.nil_subset _)).trans within, ?_⟩
        rw [← same]
        exact file?_eq_update within text

/-- A backup whose path leads to a place in an area. -/
structure Removable (area : List Location) (t : FileTree) (backup : String) : Prop where
  leads : t.Leads backup
  inside : t.destination backup ∈ area

theorem Removable.within {area area' : List Location} {backup : String}
    (h : Removable area t backup) (within : Within area' t t') : Removable area t' backup :=
  ⟨within.leads h.leads, (within.destination backup).symm ▸ h.inside⟩

theorem setAside_ok {path : String} {x : Slot} {backup : Option String} (slot : SlotOf t path x)
    (leads : t'.Leads path) (h : disk.setAside path t = (some backup, t')) :
    Within (t.footprint path) t t' ∧ t'.file? = Files.setAside t.file? x ∧
      backup.toList.map t.destination = Files.aside t.file? x ∧
      ∀ b, backup = some b → Removable (t.footprint path) t' b := by
  rw [setAside_eq] at h
  by_cases file : (disk.isFile path t).1 = true
  · rw [if_pos file] at h
    cases sibling : Path.sibling? path "bak" with
    | none =>
      rw [sibling] at h
      cases h
    | some b =>
      have place := slot.destination_sibling (.inr rfl) sibling
      have apart : t.destination path ≠ t.destination b := by
        rw [slot.output, place]
        exact x.output_ne_beside "bak"
      rw [sibling] at h
      dsimp only at h
      rcases rename_cases apart with
        failed | ⟨content, t₁, moved, -, leads_b, there, within, gone, kept⟩
      · rw [failed] at h
        cases h
      · rw [moved] at h
        cases h
        have inside : t.destination b ∈ t.footprint path := mem_footprint (.inr rfl) sibling
        have own := destination_mem_footprint t path
        have moved := file?_eq_move there within (file?_of_find?_eq_none gone) kept
        have taken : (t.file? x.output).isSome := by simp [← slot.output, there]
        refine ⟨within.mono (by simp [own, inside]), ?_, ?_, ?_⟩
        · rw [moved, Files.setAside, if_pos taken, slot.output, place]
        · rw [Files.aside, if_pos taken, ← place]
          rfl
        · rintro _ ⟨⟩
          exact ⟨within.leads leads_b, (within.destination b).symm ▸ inside⟩
  · rw [if_neg file] at h
    cases h
    rw [isFile_eq_true] at file
    have free : (t.file? x.output).isSome = false := by
      rw [← slot.output, Option.isSome_eq_false_iff, Option.isNone_iff_eq_none,
        Option.eq_none_iff_forall_ne_some]
      exact fun content there => file ⟨leads, content, there⟩
    refine ⟨.refl _ t, ?_, ?_, nofun⟩
    · simp [Files.setAside, free]
    · simp [Files.aside, free]

/-- A file is moved only to a path whose directories are there. -/
theorem leads_of_rename {source target : String}
    (h : disk.rename source target t = (true, t')) : t.Leads target := by
  have renamed : (t.rename? source target).isSome := by
    by_contra none
    rw [Option.not_isSome_iff_eq_none] at none
    have failed := attempt_of_none (·.rename? source target) none
    cases h.symm.trans failed
  cases place : t.filePlace? target with
  | none =>
    rw [rename?, place] at renamed
    cases start : t.filePlace? source <;> simp [start] at renamed
  | some l => exact (leads_of_filePlace? place).1

/-- Publishing moves the text that waits beside the output, after the forerunner has gone aside. -/
theorem publish_ok {s : Staged} {p : Published} {x : Slot} (slot : SlotOf t s.path x)
    (sibling : Path.sibling? s.path "tmp" = some s.temporary)
    (h : disk.publish s t = (some p, t')) :
    Within (t.footprint s.path) t t' ∧
      (Files.setAside t.file? x (x.beside "tmp")).isSome ∧
      t'.file? = Files.publish t.file? x ∧
      p.backup.toList.map t.destination = Files.aside t.file? x ∧
      ∀ b, p.backup = some b → Removable (t.footprint s.path) t' b := by
  rw [publish_eq] at h
  rcases aside : disk.setAside s.path t with ⟨_ | backup, t₁⟩
  · rw [aside] at h
    cases h
  · rw [aside] at h
    dsimp only at h
    cases moved : disk.rename s.temporary s.path t₁ with
    | mk success t₂ =>
      rw [moved] at h
      cases success with
      | false => cases backup <;> cases h
      | true =>
        cases h
        obtain ⟨within, files, backups, removable⟩ :=
          setAside_ok slot (leads_of_rename moved) aside
        have slot₁ := slot.of_start within.workingDirectory
        have apart : t₁.destination s.temporary ≠ t₁.destination s.path := by
          rw [slot₁.output, slot₁.destination_sibling (.inl rfl) sibling]
          exact (x.output_ne_beside "tmp").symm
        rcases rename_cases apart with
          failed | ⟨content, t₃, moved', -, -, there, within', gone, kept⟩
        · cases moved.symm.trans failed
        · cases moved.symm.trans moved'
          have inside : t.destination s.temporary ∈ t.footprint s.path :=
            mem_footprint (.inl rfl) sibling
          have own := destination_mem_footprint t s.path
          have files' := file?_eq_move there within' (file?_of_find?_eq_none gone) kept
          rw [slot₁.destination_sibling (.inl rfl) sibling, slot₁.output] at files'
          rw [slot₁.destination_sibling (.inl rfl) sibling, files] at there
          rw [within.destination, within.destination] at within'
          refine ⟨within.trans (within'.mono (by simp [own, inside])), ?_, ?_, backups, ?_⟩
          · rw [there]
            rfl
          · rw [files', files, Files.publish]
          · exact fun b hb => (removable b hb).within within'

/-! ## Passes that succeed -/

/-- A staged text, with the slot of its output. -/
structure StagedOf (t : FileTree) (s : Staged) (x : Slot) : Prop where
  slot : SlotOf t s.path x
  temporary : Path.sibling? s.path "tmp" = some s.temporary

/-- An output, with what it puts into which slot. -/
structure ReplacementOf (t : FileTree) (o : Output) (r : Replacement) : Prop where
  slot : SlotOf t o.path r.slot
  text : r.text = o.text.toUTF8

theorem StagedOf.of_start {s : Staged} {x : Slot} (h : StagedOf t s x)
    (start : t'.workingDirectory = t.workingDirectory) : StagedOf t' s x :=
  ⟨h.slot.of_start start, h.temporary⟩

theorem ReplacementOf.of_start {o : Output} {r : Replacement} (h : ReplacementOf t o r)
    (start : t'.workingDirectory = t.workingDirectory) : ReplacementOf t' o r :=
  ⟨h.slot.of_start start, h.text⟩

theorem footprint_eq (start : t'.workingDirectory = t.workingDirectory) (path : String) :
    t'.footprint path = t.footprint path := by
  have same : t'.destination = t.destination := funext (destination_eq start)
  simp only [footprint, siblings, beside, same]

theorem stageAll_ok {area : List Location} {outputs : List Output}
    {staged staged' : List Staged} (inside : ∀ o ∈ outputs, t.footprint o.path ⊆ area)
    (h : disk.stageAll outputs staged t = (.ok staged', t')) :
    ∃ added replacements, staged' = staged ++ added ∧
      added.map Staged.path = outputs.map Output.path ∧
      List.Forall₂ (ReplacementOf t) outputs replacements ∧
      List.Forall₂ (StagedOf t) added (replacements.map (·.slot)) ∧
      Within area t t' ∧ t'.file? = replacements.foldl Files.stage t.file? := by
  induction outputs generalizing staged t with
  | nil =>
    cases h
    exact ⟨[], [], (List.append_nil _).symm, rfl, .nil, .nil, .refl _ _, rfl⟩
  | cons o rest ih =>
    rw [stageAll_cons] at h
    rcases step : disk.stage o t with ⟨_ | s, t₁⟩
    · rw [step] at h
      cases h
    · rw [step] at h
      dsimp only at h
      obtain ⟨path, sibling, within, files⟩ := stage_ok step
      have start := within.workingDirectory
      rw [List.forall_mem_cons] at inside
      obtain ⟨added, replacements, all, paths, fits, slots, within', files'⟩ :=
        ih (fun o' ho' => footprint_eq start o'.path ▸ inside.2 o' ho') h
      obtain ⟨name, named⟩ := fileName?_of_sibling? sibling
      obtain ⟨x, slot⟩ := exists_slot t named
      have temporary : t.destination s.temporary ∈ area :=
        inside.1 (mem_footprint (.inl rfl) sibling)
      refine ⟨s :: added, ⟨x, o.text.toUTF8⟩ :: replacements, ?_, ?_, ?_, ?_, ?_, ?_⟩
      · rw [all, List.append_assoc, List.singleton_append]
      · rw [List.map_cons, List.map_cons, path, paths]
      · exact .cons ⟨slot, rfl⟩ (fits.imp fun _ _ h => h.of_start start.symm)
      · exact .cons ⟨path ▸ slot, path ▸ sibling⟩ (slots.imp fun _ _ h => h.of_start start.symm)
      · exact (within.mono (by simpa using temporary)).trans within'
      · rw [files', files, List.foldl_cons, slot.destination_sibling (.inl rfl) sibling]
        rfl

theorem publishAll_ok {area : List Location} {rest : List Staged}
    {published published' : List Published} {slots : List Slot}
    (inside : ∀ s ∈ rest, t.footprint s.path ⊆ area)
    (waiting : List.Forall₂ (StagedOf t) rest slots)
    (removable : ∀ p ∈ published, ∀ b, p.backup = some b → Removable area t b)
    (h : disk.publishAll rest published t = (.ok published', t')) :
    ∃ added, published' = published ++ added ∧ Within area t t' ∧
      (∀ p ∈ published', ∀ b, p.backup = some b → Removable area t' b) ∧
      Files.publishAll? slots t.file? =
        some (t'.file?, (added.flatMap (·.backup.toList)).map t.destination) := by
  induction rest generalizing published slots t with
  | nil =>
    cases h
    cases waiting
    exact ⟨[], (List.append_nil _).symm, .refl _ _, removable, rfl⟩
  | cons s rest ih =>
    cases waiting with
    | @cons _ x _ xs ready others =>
      rw [publishAll_cons] at h
      rcases step : disk.publish s t with ⟨_ | p, t₁⟩
      · rw [step] at h
        cases h
      · rw [step] at h
        dsimp only at h
        obtain ⟨within, waits, files, aside, removable_p⟩ :=
          publish_ok ready.slot ready.temporary step
        have start := within.workingDirectory
        have same : t₁.destination = t.destination := funext within.destination
        rw [List.forall_mem_cons] at inside
        have removable₁ : ∀ p' ∈ published ++ [p], ∀ b, p'.backup = some b →
            Removable area t₁ b := by
          intro p' hp' b hb
          rcases List.mem_append.mp hp' with hp' | hp'
          · exact (removable p' hp' b hb).within within
          · rw [List.mem_singleton.mp hp'] at hb
            obtain ⟨leads, place⟩ := removable_p b hb
            exact ⟨leads, inside.1 place⟩
        obtain ⟨added, all, within', removable', files'⟩ :=
          ih (fun s' hs' => footprint_eq start s'.path ▸ inside.2 s' hs')
            (others.imp fun _ _ h => h.of_start start) removable₁ h
        refine ⟨p :: added, ?_, (within.mono inside.1).trans within', removable', ?_⟩
        · rw [all, List.append_assoc, List.singleton_append]
        · rw [Files.publishAll?, if_pos waits, ← files, files', same, List.flatMap_cons,
            List.map_append, aside]
          rfl

theorem Removable.remove {area : List Location} {backup : String} (h : Removable area t backup) :
    Within area t (disk.remove backup t).2 ∧
      (disk.remove backup t).2.file? = Files.clear t.file? (t.destination backup) := by
  rcases remove_cases t backup with ⟨same, none⟩ | ⟨within, gone⟩
  · have absent : t.file? (t.destination backup) = Option.none :=
      Option.eq_none_iff_forall_ne_some.mpr fun content there => none ⟨h.leads, content, there⟩
    rw [same, Files.clear, ← absent, Function.update_eq_self]
    exact ⟨.refl _ t, rfl⟩
  · exact ⟨within.mono (by simpa using h.inside), file?_eq_update within gone⟩

theorem dropBackups_cons (p : Published) (rest : List Published) (t : FileTree) :
    (disk.dropBackups (p :: rest) t).2 =
      match p.backup with
      | some b => (disk.dropBackups rest (disk.remove b t).2).2
      | none => (disk.dropBackups rest t).2 := by
  unfold Disk.dropBackups
  cases backup : p.backup <;> simp only [List.forM_eq_forM, List.forM_cons, backup] <;> rfl

theorem dropBackups_ok {area : List Location} {published : List Published}
    (removable : ∀ p ∈ published, ∀ b, p.backup = some b → Removable area t b) :
    Within area t (disk.dropBackups published t).2 ∧
      (disk.dropBackups published t).2.file? =
        ((published.flatMap (·.backup.toList)).map t.destination).foldl Files.clear t.file? := by
  induction published generalizing t with
  | nil => exact ⟨.refl _ t, rfl⟩
  | cons p rest ih =>
    rw [List.forall_mem_cons] at removable
    rw [dropBackups_cons, List.flatMap_cons]
    cases backup : p.backup with
    | none => exact ih removable.2
    | some b =>
      obtain ⟨within, files⟩ := (removable.1 b backup).remove
      have same : (disk.remove b t).2.destination = t.destination := funext within.destination
      obtain ⟨within', files'⟩ :=
        ih fun p' hp' b' hb' => (removable.2 p' hp' b' hb').within within
      refine ⟨within.trans within', ?_⟩
      rw [files', files, same]
      rfl

/-- **A publication that succeeds makes of the files what `replaceAll?` says**, and nothing else
changes but directories that were made. -/
theorem publishOutputs_ok {outputs : List Output}
    (h : disk.publishOutputs outputs t = (.ok (), t')) :
    ∃ replacements, List.Forall₂ (ReplacementOf t) outputs replacements ∧
      Within ((outputs.map Output.path).flatMap t.footprint) t t' ∧
      Files.replaceAll? replacements t.file? = some t'.file? := by
  rw [publishOutputs_eq] at h
  rcases staging : disk.stageAll outputs [] t with ⟨_ | staged, t₁⟩
  · rw [staging] at h
    cases h
  rw [staging] at h
  dsimp only at h
  rcases publishing : disk.publishAll staged [] t₁ with ⟨_ | published, t₂⟩
  · rw [publishing] at h
    cases h
  rw [publishing] at h
  cases h
  obtain ⟨added, replacements, all, paths, fits, slots, within, files⟩ :=
    stageAll_ok (fun o ho => footprint_subset (List.mem_map_of_mem ho)) staging
  rw [List.nil_append] at all
  subst all
  have start := within.workingDirectory
  have inside : ∀ s ∈ staged,
      t₁.footprint s.path ⊆ (outputs.map Output.path).flatMap t.footprint := by
    intro s hs
    rw [footprint_eq start, ← paths]
    exact footprint_subset (List.mem_map_of_mem hs)
  have none : ∀ p ∈ ([] : List Published), ∀ b, p.backup = some b →
      Removable ((outputs.map Output.path).flatMap t.footprint) t₁ b := nofun
  obtain ⟨placed, all, within', removable, files'⟩ :=
    publishAll_ok inside (slots.imp fun _ _ h => h.of_start start) none publishing
  rw [List.nil_append] at all
  subst all
  obtain ⟨within'', files''⟩ := dropBackups_ok removable
  refine ⟨replacements, fits, (within.trans within').trans within'', ?_⟩
  have same : t₂.destination = t₁.destination := funext within'.destination
  rw [Files.replaceAll?, ← files, files', files'', same]
  rfl

end Tablecast.Storage
