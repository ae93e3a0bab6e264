import Tablecast.Proofs.Storage.Replacement

/-!
# Two outputs that clash

Two outputs are written to different paths, but one may be where the other has its temporary or
its backup. Then a publication that succeeds may still take away what it has published.

* `Files.publish_apply`: what stands where after one output is published;
* `Files.Clash`: how the places of two outputs get in each other's way;
* `Files.first_kept_iff`, `Files.second_kept_iff`: when each of them is still there at the end;
* `Files.both_kept_iff`: both outputs hold their texts unless they clash.
-/

namespace Tablecast.Storage

namespace Files

/-! ## Reading the files -/

theorem stage_apply (f : Files) (r : Replacement) (l : Location) :
    f.stage r l = if l = r.slot.beside "tmp" then some r.text else f l := by
  rw [stage, put, Function.update_apply]

theorem move_apply (f : Files) (l k j : Location) :
    f.move l k j = if j = k then f l else if j = l then none else f j := by
  rw [move, clear, Function.update_apply, Function.update_apply]

theorem foldl_clear_apply (f : Files) (places : List Location) (l : Location) :
    places.foldl clear f l = if l ∈ places then none else f l := by
  induction places generalizing f with
  | nil => simp
  | cons k places ih =>
    rw [List.foldl_cons, ih, clear, Function.update_apply]
    by_cases same : l = k
    · simp [same]
    · simp [same]

theorem mem_aside {f : Files} {s : Slot} {l : Location} :
    l ∈ f.aside s ↔ (f s.output).isSome ∧ l = s.beside "bak" := by
  unfold aside
  split <;> simp [*]

/-- Setting the forerunner aside does not touch the text that waits. -/
theorem setAside_tmp (f : Files) (s : Slot) :
    f.setAside s (s.beside "tmp") = f (s.beside "tmp") := by
  unfold setAside
  split
  · rw [move_apply, if_neg (s.tmp_ne_bak s), if_neg (s.output_ne_beside "tmp").symm]
  · rfl

/-- The output has what waited beside it, and what stood there is now the backup. -/
theorem publish_apply (f : Files) (s : Slot) (l : Location) :
    f.publish s l =
      if l = s.output then f (s.beside "tmp")
      else if l = s.beside "tmp" then none
      else if l = s.beside "bak" then (f s.output).or (f (s.beside "bak"))
      else f l := by
  rw [publish, move_apply, setAside_tmp]
  split
  · rfl
  split
  · rfl
  next output tmp =>
    unfold setAside
    cases forerunner : f s.output with
    | none =>
      simp only [Option.isSome_none, Bool.false_eq_true, if_false, Option.none_or]
      split
      · next bak => rw [bak]
      · rfl
    | some content => simp [move_apply, forerunner, output]

/-! ## Two outputs -/

/-- One of two outputs is where the other has its temporary or puts its forerunner, in a way that
the first one is taken away again. The outputs are published in this order. -/
def Clash (f : Files) (m w : Slot) : Prop :=
  m.output = w.beside "tmp" ∨ m.output = w.beside "bak" ∧ (f w.output).isSome ∨
    w.output = m.beside "bak" ∧ (f m.output).isSome

section Pair

variable {f g : Files} {m w : Replacement}

/-- The files once both texts wait. -/
def staged (f : Files) (m w : Replacement) : Files := (f.stage m).stage w

/-- The files once the first of them is in place. -/
def half (f : Files) (m w : Replacement) : Files := (f.staged m w).publish m.slot

/-- The second output can be published only if its text still waits. At the end the forerunners
of both are removed. -/
theorem replaceAll?_pair (h : replaceAll? [m, w] f = some g) :
    (f.half m w (w.slot.beside "tmp")).isSome ∧
      ∀ l, g l =
        if (f.staged m w m.slot.output).isSome ∧ l = m.slot.beside "bak" ∨
            (f.half m w w.slot.output).isSome ∧ l = w.slot.beside "bak" then none
        else (f.half m w).publish w.slot l := by
  have run : replaceAll? [m, w] f =
      (publishAll? [m.slot, w.slot] (f.staged m w)).map fun r => r.2.foldl clear r.1 := rfl
  rw [run, Option.map_eq_some_iff] at h
  obtain ⟨⟨after, places⟩, published, rfl⟩ := h
  simp only [publishAll?, setAside_tmp] at published
  split at published
  · split at published
    · next waits =>
      cases published
      refine ⟨waits, fun l => ?_⟩
      simp only [foldl_clear_apply, List.append_nil, List.mem_append, mem_aside]
      rfl
    · cases published
  · cases published

/-- The texts of two outputs at one place would get lost in one temporary. -/
theorem slots_ne (waits : (f.half m w (w.slot.beside "tmp")).isSome) : m.slot ≠ w.slot := by
  intro same
  rw [half, publish_apply, same, if_neg (w.slot.output_ne_beside "tmp").symm, if_pos rfl] at waits
  cases waits

theorem staged_first (apart : m.slot ≠ w.slot) :
    f.staged m w (m.slot.beside "tmp") = some m.text := by
  rw [staged, stage_apply, if_neg (mt Slot.beside_inj.mp apart), stage_apply, if_pos rfl]

theorem staged_second : f.staged m w (w.slot.beside "tmp") = some w.text := by
  rw [staged, stage_apply, if_pos rfl]

/-- Where neither text waits, the files are still those from before. -/
theorem staged_apply {l : Location} (first : l ≠ m.slot.beside "tmp")
    (second : l ≠ w.slot.beside "tmp") : f.staged m w l = f l := by
  rw [staged, stage_apply, if_neg second, stage_apply, if_neg first]

theorem half_first (apart : m.slot ≠ w.slot) : f.half m w m.slot.output = some m.text := by
  rw [half, publish_apply, if_pos rfl, staged_first apart]

/-- The first publication leaves the second output alone, unless a sibling of the first lies
there. -/
theorem half_second (apart : m.slot ≠ w.slot) (tmp : w.slot.output ≠ m.slot.beside "tmp")
    (bak : w.slot.output ≠ m.slot.beside "bak") :
    f.half m w w.slot.output = f w.slot.output := by
  rw [half, publish_apply, if_neg (mt Slot.output_inj.mp apart.symm), if_neg tmp, if_neg bak,
    staged_apply tmp (w.slot.output_ne_beside "tmp")]

/-- The first output is lost if it is the second one's temporary, or its backup if that one had
a forerunner. -/
theorem first_kept_iff (h : replaceAll? [m, w] f = some g) :
    g m.slot.output = some m.text ↔
      ¬ (m.slot.output = w.slot.beside "tmp" ∨
        m.slot.output = w.slot.beside "bak" ∧ (f w.slot.output).isSome) := by
  obtain ⟨waits, read⟩ := replaceAll?_pair h
  have apart := slots_ne waits
  have own := m.slot.output_ne_beside "bak"
  have different : m.slot.output ≠ w.slot.output := mt Slot.output_inj.mp apart
  rw [read, publish_apply, if_neg different]
  by_cases tmp : m.slot.output = w.slot.beside "tmp"
  · simp [tmp]
  by_cases bak : m.slot.output = w.slot.beside "bak"
  · have second : f.half m w w.slot.output = f w.slot.output :=
      half_second apart (Slot.output_ne_beside_of_beside bak "tmp")
        (Slot.output_ne_beside_of_beside bak "bak")
    rw [← bak, half_first apart, second]
    cases f w.slot.output <;> simp [own, tmp]
  · simp [own, tmp, bak, half_first apart]

/-- The second output is lost if it is the first one's backup and that one had a forerunner. -/
theorem second_kept_iff (h : replaceAll? [m, w] f = some g)
    (here : m.slot.output ≠ w.slot.beside "tmp") :
    g w.slot.output = some w.text ↔
      ¬ (w.slot.output = m.slot.beside "bak" ∧ (f m.slot.output).isSome) := by
  obtain ⟨waits, read⟩ := replaceAll?_pair h
  have apart := slots_ne waits
  have own := w.slot.output_ne_beside "bak"
  -- the second text has waited undisturbed
  have text : f.half m w (w.slot.beside "tmp") = some w.text := by
    rw [half, publish_apply, if_neg here.symm, if_neg (mt Slot.beside_inj.mp apart.symm),
      if_neg (w.slot.tmp_ne_bak m.slot), staged_second]
  have first : f.staged m w m.slot.output = f m.slot.output :=
    staged_apply (m.slot.output_ne_beside "tmp") here
  rw [read, publish_apply, if_pos rfl, text, first]
  by_cases lost : w.slot.output = m.slot.beside "bak" ∧ (f m.slot.output).isSome
  · rw [if_pos (.inl lost.symm)]
    exact iff_of_false nofun (not_not_intro lost)
  · rw [if_neg]
    · exact iff_of_true rfl lost
    · rintro (gone | gone)
      · exact lost gone.symm
      · exact own gone.2

/-- **Both outputs of a publication hold their texts exactly if they do not clash.** -/
theorem both_kept_iff (h : replaceAll? [m, w] f = some g) :
    (g m.slot.output = some m.text ∧ g w.slot.output = some w.text) ↔
      ¬ f.Clash m.slot w.slot := by
  unfold Clash
  rw [first_kept_iff h]
  constructor
  · rintro ⟨first, second⟩
    have here : m.slot.output ≠ w.slot.beside "tmp" := fun same => first (.inl same)
    rw [second_kept_iff h here] at second
    rintro (same | same | same)
    · exact here same
    · exact first (.inr same)
    · exact second same
  · intro free
    have here : m.slot.output ≠ w.slot.beside "tmp" := fun same => free (.inl same)
    refine ⟨fun lost => free (lost.imp_right .inl), ?_⟩
    rw [second_kept_iff h here]
    exact fun lost => free (.inr (.inr lost))

end Pair

end Files

end Tablecast.Storage
