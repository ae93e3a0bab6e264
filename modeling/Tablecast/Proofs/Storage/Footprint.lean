import Tablecast.Proofs.Storage.FileTree
import Tablecast.Storage.Publication

/-!
# The states of an output

While outputs are published, each is in one of a few states, in terms of the tree before. A state
speaks of three locations only: the output, its temporary and its backup. So a change elsewhere
preserves it.

* `Spared`, `Waiting`, `Placed`: before a text is staged or after all is taken back, while it
  waits, and once it is in place;
* `Spared.elsewhere`, `Waiting.elsewhere`, `Placed.elsewhere`: what happens outside the footprint
  of an output does not matter to it.
-/

namespace Tablecast.Storage

open FileTree

variable {t : FileTree}

/-! ## Footprints -/

/-- Where the file beside an output lies. -/
def FileTree.beside (t : FileTree) (path extension : String) : List Location :=
  ((Path.sibling? path extension).map t.destination).toList

/-- Where the temporary and the backup of an output lie. -/
def FileTree.siblings (t : FileTree) (path : String) : List Location :=
  t.beside path "tmp" ++ t.beside path "bak"

/-- The locations that publishing an output may change. -/
def FileTree.footprint (t : FileTree) (path : String) : List Location :=
  t.destination path :: t.siblings path

theorem destination_mem_footprint (t : FileTree) (path : String) :
    t.destination path ∈ t.footprint path := List.mem_cons_self

theorem beside_eq {path extension sibling : String}
    (h : Path.sibling? path extension = some sibling) :
    t.beside path extension = [t.destination sibling] := by
  rw [beside, h]
  rfl

theorem mem_footprint_of_beside {path extension : String} {l : Location}
    (known : extension = "tmp" ∨ extension = "bak") (h : l ∈ t.beside path extension) :
    l ∈ t.footprint path := by
  refine List.mem_cons_of_mem _ (List.mem_append.mpr ?_)
  rcases known with rfl | rfl
  · exact .inl h
  · exact .inr h

theorem mem_footprint {path extension sibling : String}
    (known : extension = "tmp" ∨ extension = "bak")
    (h : Path.sibling? path extension = some sibling) :
    t.destination sibling ∈ t.footprint path := by
  refine mem_footprint_of_beside known ?_
  rw [beside_eq h]
  exact List.mem_cons_self

theorem footprint_apart {path : String} (nodup : (t.footprint path).Nodup) :
    (∀ l ∈ t.beside path "tmp", t.destination path ≠ l) ∧
      (∀ l ∈ t.beside path "bak", t.destination path ≠ l) ∧
      ∀ l ∈ t.beside path "tmp", ∀ k ∈ t.beside path "bak", l ≠ k := by
  obtain ⟨own, rest⟩ := List.nodup_cons.mp nodup
  obtain ⟨-, -, between⟩ := List.nodup_append.mp rest
  refine ⟨fun l hl same => ?_, fun l hl same => ?_, between⟩
  · exact own (same ▸ List.mem_append_left _ hl)
  · exact own (same ▸ List.mem_append_right _ hl)

/-! ## The states of an output -/

/-- Nothing stands at the location but what stood there before. -/
def NothingNew (t₀ t : FileTree) (l : Location) : Prop :=
  t.file? l = none ∨ t.file? l = t₀.file? l

/-- The output is as it was before, and nothing new lies beside it. -/
structure Spared (t₀ : FileTree) (path : String) (t : FileTree) : Prop where
  start : t.workingDirectory = t₀.workingDirectory
  output : t.file? (t₀.destination path) = t₀.file? (t₀.destination path)
  siblings : ∀ l ∈ t₀.siblings path, NothingNew t₀ t l

/-- The text of the output lies beside it. -/
structure Ready (t₀ : FileTree) (outputs : List Output) (s : Staged) (t : FileTree) : Prop where
  start : t.workingDirectory = t₀.workingDirectory
  temporary : Path.sibling? s.path "tmp" = some s.temporary
  leads : t.Leads s.temporary
  text : ∃ o ∈ outputs, o.path = s.path ∧
    t.file? (t₀.destination s.temporary) = some o.text.toUTF8

/-- The text of the output lies beside it, and the output is as it was before. -/
structure Waiting (t₀ : FileTree) (outputs : List Output) (s : Staged) (t : FileTree) : Prop
    extends Ready t₀ outputs s t where
  output : t.file? (t₀.destination s.path) = t₀.file? (t₀.destination s.path)
  backup : ∀ l ∈ t₀.beside s.path "bak", NothingNew t₀ t l

/-- The forerunner of the output lies beside it. -/
structure Aside (t₀ : FileTree) (path backup : String) (t : FileTree) : Prop where
  start : t.workingDirectory = t₀.workingDirectory
  sibling : Path.sibling? path "bak" = some backup
  leads : t.Leads path
  leads_backup : t.Leads backup
  forerunner : ∃ content, t₀.file? (t₀.destination path) = some content ∧
    t.file? (t₀.destination backup) = some content

/-- The output has its text, and its forerunner lies beside it if it had one. -/
structure Placed (t₀ : FileTree) (outputs : List Output) (p : Published) (t : FileTree) :
    Prop where
  start : t.workingDirectory = t₀.workingDirectory
  leads : t.Leads p.path
  text : ∃ o ∈ outputs, o.path = p.path ∧ t.file? (t₀.destination p.path) = some o.text.toUTF8
  temporary : ∀ l ∈ t₀.beside p.path "tmp", NothingNew t₀ t l
  replaced : ∀ b, p.backup = some b → Aside t₀ p.path b t
  new : p.backup = none → t₀.file? (t₀.destination p.path) = none ∧
    ∀ l ∈ t₀.beside p.path "bak", NothingNew t₀ t l

section Elsewhere

variable {t₀ t' : FileTree} {area : List Location} {outputs : List Output}

theorem destination_eq (start : t.workingDirectory = t₀.workingDirectory) (path : String) :
    t.destination path = t₀.destination path := by
  simp only [destination, FileTree.start, start]

theorem NothingNew.elsewhere {l : Location} (h : NothingNew t₀ t l) (within : Within area t t')
    (apart : l ∉ area) : NothingNew t₀ t' l := by
  unfold NothingNew
  rwa [within.file l apart]

theorem nothingNew_beside {path extension sibling : String}
    (h : Path.sibling? path extension = some sibling)
    (gone : t.file? (t₀.destination sibling) = none) :
    ∀ l ∈ t₀.beside path extension, NothingNew t₀ t l := by
  rw [beside_eq h]
  exact fun l hl => .inl (List.mem_singleton.mp hl ▸ gone)

theorem Spared.elsewhere {path : String} (h : Spared t₀ path t) (within : Within area t t')
    (apart : ∀ l ∈ t₀.footprint path, l ∉ area) : Spared t₀ path t' where
  start := within.workingDirectory.trans h.start
  output := by rw [within.file _ (apart _ (destination_mem_footprint t₀ path)), h.output]
  siblings := fun l hl =>
    (h.siblings l hl).elsewhere within (apart l (List.mem_cons_of_mem _ hl))

theorem Ready.elsewhere {s : Staged} (h : Ready t₀ outputs s t) (within : Within area t t')
    (apart : t₀.destination s.temporary ∉ area) : Ready t₀ outputs s t' where
  start := within.workingDirectory.trans h.start
  temporary := h.temporary
  leads := within.leads h.leads
  text := by
    rw [within.file _ apart]
    exact h.text

theorem Waiting.elsewhere {s : Staged} (h : Waiting t₀ outputs s t) (within : Within area t t')
    (apart : ∀ l ∈ t₀.footprint s.path, l ∉ area) : Waiting t₀ outputs s t' where
  toReady := h.toReady.elsewhere within (apart _ (mem_footprint (.inl rfl) h.temporary))
  output := by rw [within.file _ (apart _ (destination_mem_footprint t₀ s.path)), h.output]
  backup := fun l hl =>
    (h.backup l hl).elsewhere within (apart l (mem_footprint_of_beside (.inr rfl) hl))

theorem Aside.elsewhere {path backup : String} (h : Aside t₀ path backup t)
    (within : Within area t t') (apart : t₀.destination backup ∉ area) :
    Aside t₀ path backup t' where
  start := within.workingDirectory.trans h.start
  sibling := h.sibling
  leads := within.leads h.leads
  leads_backup := within.leads h.leads_backup
  forerunner := by
    rw [within.file _ apart]
    exact h.forerunner

theorem Placed.elsewhere {p : Published} (h : Placed t₀ outputs p t) (within : Within area t t')
    (apart : ∀ l ∈ t₀.footprint p.path, l ∉ area) : Placed t₀ outputs p t' where
  start := within.workingDirectory.trans h.start
  leads := within.leads h.leads
  text := by
    rw [within.file _ (apart _ (destination_mem_footprint t₀ p.path))]
    exact h.text
  temporary := fun l hl =>
    (h.temporary l hl).elsewhere within (apart l (mem_footprint_of_beside (.inl rfl) hl))
  replaced := fun b hb => by
    have aside := h.replaced b hb
    exact aside.elsewhere within (apart _ (mem_footprint (.inr rfl) aside.sibling))
  new := fun hb => by
    obtain ⟨before, backup⟩ := h.new hb
    exact ⟨before, fun l hl =>
      (backup l hl).elsewhere within (apart l (mem_footprint_of_beside (.inr rfl) hl))⟩

end Elsewhere

end Tablecast.Storage
