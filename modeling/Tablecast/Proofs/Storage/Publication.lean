import Mathlib.Data.List.Nodup
import Tablecast.Proofs.Storage.Step

/-!
# All or nothing

A publication that fails leaves every file as it was, apart from the temporaries and backups beside
its outputs, and of those it leaves none that was not there before. Each step concerns one output,
and the others keep their states because their footprints lie apart.

* `forM_spared`: what a pass that cleans up makes of the states;
* `discard_all`, `rollback_all`: giving up while staging, and while publishing;
* `stageAll_cases`, `publishAll_cases`: what a pass that may fail makes of them;
* `publishOutputs_error`: a failure leaves every output spared.
-/

namespace Tablecast.Storage

open FileTree

variable {t t₀ : FileTree} {outputs : List Output}

/-! ## Outputs that lie apart -/

/-- The footprints of the outputs lie apart: no location is named twice. -/
def FileTree.Apart (t : FileTree) (paths : List String) : Prop :=
  (paths.flatMap t.footprint).Nodup

instance (t : FileTree) (paths : List String) : Decidable (t.Apart paths) :=
  inferInstanceAs (Decidable (List.Nodup _))

theorem footprint_subset {paths : List String} {path : String} (h : path ∈ paths) :
    t.footprint path ⊆ paths.flatMap t.footprint :=
  fun _ hl => List.mem_flatMap.mpr ⟨path, h, hl⟩

theorem flatMap_footprint_subset {paths paths' : List String} (h : paths ⊆ paths') :
    paths.flatMap t.footprint ⊆ paths'.flatMap t.footprint := by
  intro l hl
  obtain ⟨path, inside, hl⟩ := List.mem_flatMap.mp hl
  exact footprint_subset (h inside) hl

theorem apart_append {before after : List String} :
    t.Apart (before ++ after) ↔
      t.Apart before ∧ t.Apart after ∧
        ∀ l ∈ before.flatMap t.footprint, l ∉ after.flatMap t.footprint := by
  simp only [Apart, List.flatMap_append, List.nodup_append']
  rfl

theorem apart_cons {path : String} {paths : List String} :
    t.Apart (path :: paths) ↔
      (t.footprint path).Nodup ∧ t.Apart paths ∧
        ∀ l ∈ t.footprint path, l ∉ paths.flatMap t.footprint := by
  simp only [Apart, List.flatMap_cons, List.nodup_append']
  rfl

theorem FileTree.Apart.perm {paths paths' : List String} (h : t.Apart paths)
    (perm : paths.Perm paths') : t.Apart paths' :=
  (perm.flatMap_right t.footprint).nodup_iff.mp h

/-- An action on each of several outputs that lie apart does to each what it does to one. -/
theorem forM_spared {α : Type} (path : α → String) (act : α → StateM FileTree Unit)
    (Before : α → FileTree → Prop)
    (elsewhere : ∀ {x t t' area}, Before x t → Within area t t' →
      (∀ l ∈ t₀.footprint (path x), l ∉ area) → Before x t')
    (step : ∀ {x t}, Before x t → (t₀.footprint (path x)).Nodup →
      Within (t₀.footprint (path x)) t (act x t).2 ∧ Spared t₀ (path x) (act x t).2)
    {l : List α} (apart : t₀.Apart (l.map path)) (before : ∀ x ∈ l, Before x t) :
    Within ((l.map path).flatMap t₀.footprint) t (l.forM act t).2 ∧
      ∀ x ∈ l, Spared t₀ (path x) (l.forM act t).2 := by
  induction l generalizing t with
  | nil => exact ⟨.refl _ t, fun x hx => absurd hx List.not_mem_nil⟩
  | cons x l ih =>
    obtain ⟨nodup, rest_apart, disjoint⟩ := apart_cons.mp apart
    obtain ⟨within, spared⟩ := step (before x List.mem_cons_self) nodup
    have others : ∀ y ∈ l, Before y (act x t).2 := by
      intro y hy
      refine elsewhere (before y (List.mem_cons_of_mem x hy)) within fun k hk inside => ?_
      exact disjoint k inside (footprint_subset (List.mem_map_of_mem hy) hk)
    obtain ⟨within', spared'⟩ := ih rest_apart others
    have run : ((x :: l).forM act t).2 = (l.forM act (act x t).2).2 := rfl
    rw [run, List.map_cons, List.flatMap_cons]
    refine ⟨(within.mono (List.subset_append_left _ _)).trans
      (within'.mono (List.subset_append_right _ _)), fun y hy => ?_⟩
    rcases List.mem_cons.mp hy with rfl | hy
    · exact spared.elsewhere within' disjoint
    · exact spared' y hy

theorem discard_spec {staged : List Staged} (apart : t₀.Apart (staged.map Staged.path))
    (waiting : ∀ s ∈ staged, Waiting t₀ outputs s t) :
    Within ((staged.map Staged.path).flatMap t₀.footprint) t (disk.discard staged t).2 ∧
      ∀ s ∈ staged, Spared t₀ s.path (disk.discard staged t).2 :=
  forM_spared Staged.path (fun s => disk.remove s.temporary) (Waiting t₀ outputs)
    Waiting.elsewhere Waiting.remove_temporary apart waiting

theorem withdrawAll_spec {published : List Published}
    (apart : t₀.Apart (published.map Published.path))
    (placed : ∀ p ∈ published, Placed t₀ outputs p t) :
    Within ((published.map Published.path).flatMap t₀.footprint) t
        (published.forM (disk.withdraw ·) t).2 ∧
      ∀ p ∈ published, Spared t₀ p.path (published.forM (disk.withdraw ·) t).2 :=
  forM_spared Published.path (disk.withdraw ·) (Placed t₀ outputs) Placed.elsewhere withdraw_spec
    apart placed

theorem stageAll_cons (o : Output) (rest : List Output) (staged : List Staged) (t : FileTree) :
    disk.stageAll (o :: rest) staged t =
      match disk.stage o t with
      | (.ok s, t') => disk.stageAll rest (staged ++ [s]) t'
      | (.error e, t') => (.error e, (disk.discard staged t').2) := by
  rw [Disk.stageAll, bind_apply]
  rcases disk.stage o t with ⟨_ | s, t'⟩
  · rfl
  · rfl

theorem publishAll_cons (s : Staged) (rest : List Staged) (published : List Published)
    (t : FileTree) :
    disk.publishAll (s :: rest) published t =
      match disk.publish s t with
      | (some p, t') => disk.publishAll rest (published ++ [p]) t'
      | (none, t') => (.error (.unwritable s.path),
        (published.reverse.forM (disk.withdraw ·) (disk.discard (s :: rest) t').2).2) := by
  rw [Disk.publishAll, bind_apply]
  rcases disk.publish s t with ⟨_ | p, t'⟩
  · rfl
  · rfl

/-- The footprint of one output of several lies apart from those of the others. -/
theorem FileTree.Apart.middle {before after : List String} {path : String}
    (apart : t.Apart (before ++ path :: after)) :
    (t.footprint path).Nodup ∧
      ∀ other ∈ before ++ after, ∀ l ∈ t.footprint other, l ∉ t.footprint path := by
  obtain ⟨nodup, -, disjoint⟩ := apart_cons.mp (apart.perm List.perm_middle)
  refine ⟨nodup, fun other hother l hl inside => ?_⟩
  exact disjoint l inside (footprint_subset hother hl)

/-- Giving up while staging leaves every output spared: the temporaries go, and what was not staged
yet is as it was. -/
theorem discard_all {staged : List Staged} {rest paths : List String}
    (all : staged.map Staged.path ++ rest = paths) (apart : t₀.Apart paths)
    (waiting : ∀ s ∈ staged, Waiting t₀ outputs s t)
    (spared : ∀ path ∈ rest, Spared t₀ path t) :
    Within (paths.flatMap t₀.footprint) t (disk.discard staged t).2 ∧
      ∀ path ∈ paths, Spared t₀ path (disk.discard staged t).2 := by
  obtain ⟨staged_apart, -, between⟩ := apart_append.mp (all ▸ apart)
  obtain ⟨within, discarded⟩ := discard_spec staged_apart waiting
  refine ⟨within.mono (flatMap_footprint_subset (by simp [← all])), fun path hpath => ?_⟩
  rcases List.mem_append.mp (all ▸ hpath) with hpath | hpath
  · obtain ⟨s, hs, rfl⟩ := List.mem_map.mp hpath
    exact discarded s hs
  · exact (spared path hpath).elsewhere within fun l hl inside =>
      between l inside (footprint_subset hpath hl)

/-- Rolling back leaves every output spared: the temporaries go first, then the texts in place are
taken back, the last one first. -/
theorem rollback_all {staged : List Staged} {published : List Published} {paths : List String}
    (all : published.map Published.path ++ staged.map Staged.path = paths) (apart : t₀.Apart paths)
    (placed : ∀ p ∈ published, Placed t₀ outputs p t)
    (waiting : ∀ s ∈ staged, Waiting t₀ outputs s t) :
    Within (paths.flatMap t₀.footprint) t
        (published.reverse.forM (disk.withdraw ·) (disk.discard staged t).2).2 ∧
      ∀ path ∈ paths,
        Spared t₀ path (published.reverse.forM (disk.withdraw ·) (disk.discard staged t).2).2 := by
  obtain ⟨left, right, between⟩ := apart_append.mp (all ▸ apart)
  obtain ⟨within, discarded⟩ := discard_spec right waiting
  have placed' : ∀ p ∈ published.reverse, Placed t₀ outputs p (disk.discard staged t).2 := by
    intro p hp
    have member := List.mem_reverse.mp hp
    exact (placed p member).elsewhere within fun l hl =>
      between l (footprint_subset (List.mem_map_of_mem member) hl)
  -- the order does not matter to outputs that lie apart
  have reversed : t₀.Apart (published.reverse.map Published.path) :=
    left.perm (published.reverse_perm.map Published.path).symm
  obtain ⟨within', withdrawn⟩ := withdrawAll_spec reversed placed'
  have discard_area : staged.map Staged.path ⊆ paths := by simp [← all]
  have withdraw_area : published.reverse.map Published.path ⊆ paths := by simp [← all]
  refine ⟨(within.mono (flatMap_footprint_subset discard_area)).trans
    (within'.mono (flatMap_footprint_subset withdraw_area)), fun path hpath => ?_⟩
  rcases List.mem_append.mp (all ▸ hpath) with hpath | hpath
  · obtain ⟨p, hp, rfl⟩ := List.mem_map.mp hpath
    exact withdrawn p (List.mem_reverse.mpr hp)
  · have spared : Spared t₀ path (disk.discard staged t).2 := by
      obtain ⟨s, hs, rfl⟩ := List.mem_map.mp hpath
      exact discarded s hs
    refine spared.elsewhere within' fun l hl inside => ?_
    obtain ⟨q, hq, hl'⟩ := List.mem_flatMap.mp inside
    have member : q ∈ published.map Published.path := by
      rw [List.map_reverse, List.mem_reverse] at hq
      exact hq
    exact between l (footprint_subset member hl') (footprint_subset hpath hl)

/-- Staging leaves every text waiting, or a failure leaves every output spared. -/
theorem stageAll_cases {rest : List Output} (sub : ∀ o ∈ rest, o ∈ outputs)
    {staged : List Staged} {paths : List String}
    (all : staged.map Staged.path ++ rest.map Output.path = paths) (apart : t₀.Apart paths)
    (waiting : ∀ s ∈ staged, Waiting t₀ outputs s t)
    (spared : ∀ o ∈ rest, Spared t₀ o.path t) :
    (∃ staged' t', disk.stageAll rest staged t = (.ok staged', t') ∧
        staged'.map Staged.path = paths ∧ Within (paths.flatMap t₀.footprint) t t' ∧
        ∀ s ∈ staged', Waiting t₀ outputs s t') ∨
      ∃ e t', disk.stageAll rest staged t = (.error e, t') ∧
        Within (paths.flatMap t₀.footprint) t t' ∧ ∀ path ∈ paths, Spared t₀ path t' := by
  induction rest generalizing staged t with
  | nil =>
    rw [List.map_nil, List.append_nil] at all
    exact .inl ⟨staged, t, rfl, all, .refl _ t, waiting⟩
  | cons o rest ih =>
    rw [List.map_cons] at all
    obtain ⟨nodup, elsewhere⟩ := (all ▸ apart).middle
    have here : o.path ∈ paths := by simp [← all]
    -- a step on this output leaves the states of the others, whose footprints lie apart
    have still_waiting : ∀ {t₁}, Within (t₀.footprint o.path) t t₁ →
        ∀ s ∈ staged, Waiting t₀ outputs s t₁ := fun within s hs =>
      (waiting s hs).elsewhere within
        (elsewhere _ (List.mem_append_left _ (List.mem_map_of_mem hs)))
    have still_spared : ∀ {t₁}, Within (t₀.footprint o.path) t t₁ →
        ∀ o' ∈ rest, Spared t₀ o'.path t₁ := fun within o' ho' =>
      (spared o' (List.mem_cons_of_mem o ho')).elsewhere within
        (elsewhere _ (List.mem_append_right _ (List.mem_map_of_mem ho')))
    rw [stageAll_cons]
    rcases stage_cases (sub o List.mem_cons_self) nodup (spared o List.mem_cons_self) with
      ⟨s, t₁, staged_s, same, within, ready⟩ | ⟨e, t₁, failed, within, unstaged⟩
    · rw [staged_s]
      have waiting₁ : ∀ s' ∈ staged ++ [s], Waiting t₀ outputs s' t₁ := by
        intro s' hs'
        rcases List.mem_append.mp hs' with hs' | hs'
        · exact still_waiting within s' hs'
        · exact List.mem_singleton.mp hs' ▸ ready
      rcases ih (fun o' ho' => sub o' (List.mem_cons_of_mem o ho')) (by simp [same, ← all])
          waiting₁ (still_spared within) with
        ⟨staged', t', run, complete, within', waiting'⟩ | ⟨e, t', run, within', spared'⟩
      · exact .inl ⟨staged', t', run, complete,
          (within.mono (footprint_subset here)).trans within', waiting'⟩
      · exact .inr ⟨e, t', run, (within.mono (footprint_subset here)).trans within', spared'⟩
    · rw [failed]
      -- what is left is the output that failed and those after it
      have spared₁ : ∀ path ∈ o.path :: rest.map Output.path, Spared t₀ path t₁ := by
        intro path hpath
        rcases List.mem_cons.mp hpath with rfl | hpath
        · exact unstaged
        · obtain ⟨o', ho', rfl⟩ := List.mem_map.mp hpath
          exact still_spared within o' ho'
      obtain ⟨within', spared'⟩ := discard_all all apart (still_waiting within) spared₁
      exact .inr ⟨e, _, rfl, (within.mono (footprint_subset here)).trans within', spared'⟩

/-- Publishing puts every waiting text in place, or a failure leaves every output spared. -/
theorem publishAll_cases {rest : List Staged} {published : List Published} {paths : List String}
    (all : published.map Published.path ++ rest.map Staged.path = paths) (apart : t₀.Apart paths)
    (placed : ∀ p ∈ published, Placed t₀ outputs p t)
    (waiting : ∀ s ∈ rest, Waiting t₀ outputs s t) :
    (∃ published' t', disk.publishAll rest published t = (.ok published', t') ∧
        published'.map Published.path = paths ∧ Within (paths.flatMap t₀.footprint) t t' ∧
        ∀ p ∈ published', Placed t₀ outputs p t') ∨
      ∃ e t', disk.publishAll rest published t = (.error e, t') ∧
        Within (paths.flatMap t₀.footprint) t t' ∧ ∀ path ∈ paths, Spared t₀ path t' := by
  induction rest generalizing published t with
  | nil =>
    rw [List.map_nil, List.append_nil] at all
    exact .inl ⟨published, t, rfl, all, .refl _ t, placed⟩
  | cons s rest ih =>
    rw [List.map_cons] at all
    obtain ⟨nodup, elsewhere⟩ := (all ▸ apart).middle
    have here : s.path ∈ paths := by simp [← all]
    have still_placed : ∀ {t₁}, Within (t₀.footprint s.path) t t₁ →
        ∀ p ∈ published, Placed t₀ outputs p t₁ := fun within p hp =>
      (placed p hp).elsewhere within
        (elsewhere _ (List.mem_append_left _ (List.mem_map_of_mem hp)))
    have still_waiting : ∀ {t₁}, Within (t₀.footprint s.path) t t₁ →
        ∀ s' ∈ rest, Waiting t₀ outputs s' t₁ := fun within s' hs' =>
      (waiting s' (List.mem_cons_of_mem s hs')).elsewhere within
        (elsewhere _ (List.mem_append_right _ (List.mem_map_of_mem hs')))
    rw [publishAll_cons]
    rcases publish_cases (waiting s List.mem_cons_self) nodup with
      ⟨p, t₁, published_p, same, within, in_place⟩ | ⟨t₁, failed, within, unpublished⟩
    · rw [published_p]
      have placed₁ : ∀ p' ∈ published ++ [p], Placed t₀ outputs p' t₁ := by
        intro p' hp'
        rcases List.mem_append.mp hp' with hp' | hp'
        · exact still_placed within p' hp'
        · exact List.mem_singleton.mp hp' ▸ in_place
      rcases ih (by simp [same, ← all]) placed₁ (still_waiting within) with
        ⟨published', t', run, complete, within', placed'⟩ | ⟨e, t', run, within', spared'⟩
      · exact .inl ⟨published', t', run, complete,
          (within.mono (footprint_subset here)).trans within', placed'⟩
      · exact .inr ⟨e, t', run, (within.mono (footprint_subset here)).trans within', spared'⟩
    · rw [failed]
      -- the output that failed is among the temporaries still to be removed
      have waiting₁ : ∀ s' ∈ s :: rest, Waiting t₀ outputs s' t₁ := by
        intro s' hs'
        rcases List.mem_cons.mp hs' with rfl | hs'
        · exact unpublished
        · exact still_waiting within s' hs'
      obtain ⟨within', spared'⟩ := rollback_all all apart (still_placed within) waiting₁
      exact .inr ⟨_, _, rfl, (within.mono (footprint_subset here)).trans within', spared'⟩

theorem publishOutputs_eq (outputs : List Output) (t : FileTree) :
    disk.publishOutputs outputs t =
      match disk.stageAll outputs [] t with
      | (.error e, t') => (.error e, t')
      | (.ok staged, t') =>
        match disk.publishAll staged [] t' with
        | (.error e, t'') => (.error e, t'')
        | (.ok published, t'') => (.ok (), (disk.dropBackups published t'').2) := by
  unfold Disk.publishOutputs
  rw [bind_apply]
  rcases disk.stageAll outputs [] t with ⟨_ | staged, t'⟩
  · rfl
  · dsimp only
    rw [bind_apply]
    rcases disk.publishAll staged [] t' with ⟨_ | published, t''⟩
    · rfl
    · rfl

/-- **A publication that fails leaves every output spared**, and nothing changes outside their
footprints but directories that were made. -/
theorem publishOutputs_error {e : PublicationError} {t' : FileTree}
    (apart : t.Apart (outputs.map Output.path))
    (failed : disk.publishOutputs outputs t = (.error e, t')) :
    Within ((outputs.map Output.path).flatMap t.footprint) t t' ∧
      ∀ o ∈ outputs, Spared t o.path t' := by
  have spared : ∀ o ∈ outputs, Spared t o.path t := fun o _ => ⟨rfl, rfl, fun l _ => .inr rfl⟩
  have unstaged : ∀ s ∈ ([] : List Staged), Waiting t outputs s t := nofun
  have unpublished : ∀ {t₁}, ∀ p ∈ ([] : List Published), Placed t outputs p t₁ := nofun
  rw [publishOutputs_eq] at failed
  have all : ([].map Staged.path) ++ outputs.map Output.path = outputs.map Output.path := rfl
  rcases stageAll_cases (fun o ho => ho) all apart unstaged spared with
    ⟨staged, t₁, run, complete, within, waiting⟩ | ⟨e, t₁, run, within, spared'⟩
  · rw [run] at failed
    dsimp only at failed
    have all' : ([].map Published.path) ++ staged.map Staged.path = outputs.map Output.path :=
      complete
    rcases publishAll_cases all' apart unpublished waiting with
      ⟨published, t₂, run, -⟩ | ⟨e, t₂, run, within', spared'⟩
    · rw [run] at failed
      cases failed
    · rw [run] at failed
      cases failed
      exact ⟨within.trans within', fun o ho => spared' _ (List.mem_map_of_mem ho)⟩
  · rw [run] at failed
    cases failed
    exact ⟨within, fun o ho => spared' _ (List.mem_map_of_mem ho)⟩

/-- Spared outputs in a tree that is otherwise the same: no file has changed, but what lies beside
an output may be gone. -/
theorem file?_of_spared {paths : List String} (within : Within (paths.flatMap t₀.footprint) t₀ t)
    (spared : ∀ path ∈ paths, Spared t₀ path t) (l : Location) :
    ((∀ path ∈ paths, l ∉ t₀.siblings path) → t.file? l = t₀.file? l) ∧ NothingNew t₀ t l := by
  by_cases inside : l ∈ paths.flatMap t₀.footprint
  · obtain ⟨path, hpath, hl⟩ := List.mem_flatMap.mp inside
    rcases List.mem_cons.mp hl with rfl | hl
    · have same := (spared path hpath).output
      exact ⟨fun _ => same, .inr same⟩
    · exact ⟨fun outside => absurd hl (outside path hpath), (spared path hpath).siblings l hl⟩
  · have same := within.file l inside
    exact ⟨fun _ => same, .inr same⟩

end Tablecast.Storage
