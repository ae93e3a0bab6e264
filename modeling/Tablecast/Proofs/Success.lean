import Mathlib.Data.List.Forall2

/-!
# Successful chains

When a chain of computations that may fail succeeds, in terms of its links. A list of successes
stands beside the list it comes from, element by element.
-/

namespace Tablecast

variable {ε α β γ σ : Type}

theorem exists_of_mem_forall₂ {R : α → β → Prop} {l : List α} {m : List β}
    (h : List.Forall₂ R l m) {a : α} (ha : a ∈ l) : ∃ b ∈ m, R a b := by
  obtain ⟨i, hi, rfl⟩ := List.mem_iff_getElem.mp ha
  have hi' : i < m.length := h.length_eq ▸ hi
  exact ⟨m[i], List.getElem_mem hi', h.get hi hi'⟩

theorem map_eq_map_of_forall₂ {R : α → β → Prop} (f : α → γ) (g : β → γ)
    (same : ∀ a b, R a b → f a = g b) {l : List α} {m : List β} (h : List.Forall₂ R l m) :
    l.map f = m.map g := by
  induction h with
  | nil => rfl
  | cons h _ ih => simp [same _ _ h, ih]

theorem forall_mem_iff_of_forall₂ {R : α → β → Prop} {P : α → Prop} {Q : β → Prop}
    (same : ∀ a b, R a b → (P a ↔ Q b)) {l : List α} {m : List β} (h : List.Forall₂ R l m) :
    (∀ a ∈ l, P a) ↔ ∀ b ∈ m, Q b := by
  induction h with
  | nil => simp
  | cons h _ ih => simp only [List.forall_mem_cons, same _ _ h, ih]

theorem bind_eq_ok {x : Except ε α} {f : α → Except ε β} {b : β} :
    (x >>= f) = .ok b ↔ ∃ a, x = .ok a ∧ f a = .ok b := by
  cases x with
  | error e => simp [bind, Except.bind]
  | ok a => simp [bind, Except.bind]

theorem andThen_eq_ok {x : Except ε Unit} {f : Unit → Except ε β} {b : β} :
    (x >>= f) = .ok b ↔ x = .ok () ∧ f () = .ok b := by
  rw [bind_eq_ok]
  exact ⟨fun ⟨_, h, rest⟩ => ⟨h, rest⟩, fun ⟨h, rest⟩ => ⟨(), h, rest⟩⟩

theorem pure_eq_ok {a b : α} : (pure a : Except ε α) = .ok b ↔ a = b := by
  simp [pure, Except.pure]

theorem toOption_eq_some {x : Except ε α} {a : α} : x.toOption = some a ↔ x = .ok a := by
  cases x <;> simp [Except.toOption]

theorem mapError_eq_ok {f : ε → γ} {x : Except ε α} {a : α} :
    x.mapError f = .ok a ↔ x = .ok a := by
  cases x <;> simp [Except.mapError]

theorem mapM_eq_ok {f : α → Except ε β} {l : List α} {r : List β} :
    l.mapM f = .ok r ↔ List.Forall₂ (fun a b => f a = .ok b) l r := by
  induction l generalizing r with
  | nil => rw [List.mapM_nil, pure_eq_ok, List.forall₂_nil_left_iff, eq_comm]
  | cons a l ih =>
    simp only [List.mapM_cons, bind_eq_ok, pure_eq_ok, ih]
    constructor
    · rintro ⟨b, hb, bs, hbs, rfl⟩
      exact .cons hb hbs
    · rintro (_ | ⟨hb, hbs⟩)
      exact ⟨_, hb, _, hbs, rfl⟩

theorem exists_of_mem_mapM {f : α → Except ε β} {l : List α} {r : List β}
    (h : l.mapM f = .ok r) {b : β} (hb : b ∈ r) : ∃ a ∈ l, f a = .ok b :=
  exists_of_mem_forall₂ (mapM_eq_ok.mp h).flip hb

/-- An element and its result stand beside each other. -/
theorem mem_zip_mapM {f : α → Except ε β} {l : List α} {r : List β} (h : l.mapM f = .ok r) {a : α}
    {b : β} : (a, b) ∈ l.zip r ↔ a ∈ l ∧ f a = .ok b := by
  have beside := mapM_eq_ok.mp h
  constructor
  · intro pair
    exact ⟨(List.of_mem_zip pair).1, (List.forall₂_iff_zip.mp beside).2 pair⟩
  · rintro ⟨member, done⟩
    clear h
    induction beside with
    | nil => exact absurd member List.not_mem_nil
    | cons first _ ih =>
      rw [List.zip_cons_cons]
      rcases List.mem_cons.mp member with rfl | member
      · rw [Except.ok.inj (done.symm.trans first)]
        exact List.mem_cons_self
      · exact List.mem_cons_of_mem _ (ih member)

theorem exists_mapM_eq_ok {f : α → Except ε β} {l : List α} :
    (∃ r, l.mapM f = .ok r) ↔ ∀ a ∈ l, ∃ b, f a = .ok b := by
  simp only [mapM_eq_ok]
  induction l with
  | nil => exact ⟨nofun, fun _ => ⟨[], .nil⟩⟩
  | cons a l ih =>
    rw [List.forall_mem_cons, ← ih]
    constructor
    · rintro ⟨_, _ | ⟨first, rest⟩⟩
      exact ⟨⟨_, first⟩, ⟨_, rest⟩⟩
    · rintro ⟨⟨_, first⟩, ⟨_, rest⟩⟩
      exact ⟨_, .cons first rest⟩

theorem forM_eq_ok {f : α → Except ε Unit} {l : List α} :
    l.forM f = .ok () ↔ ∀ a ∈ l, f a = .ok () := by
  induction l with
  | nil => exact ⟨fun _ _ h => absurd h List.not_mem_nil, fun _ => rfl⟩
  | cons a l ih =>
    change (f a >>= fun _ => l.forM f) = .ok () ↔ _
    rw [andThen_eq_ok, ih, List.forall_mem_cons]

theorem foldlM_cons_eq_ok {f : σ → α → Except ε σ} {a : α} {l : List α} {s r : σ} :
    (a :: l).foldlM f s = .ok r ↔ ∃ s', f s a = .ok s' ∧ l.foldlM f s' = .ok r := by
  rw [List.foldlM_cons, bind_eq_ok]

/-- If a step succeeds exactly when its element is fit and the invariant still holds after it, then
so does a pass. -/
theorem foldlM_eq_ok {f : σ → α → Except ε σ} (next : σ → α → σ) (Inv : σ → Prop) (Fit : α → Prop)
    (step : ∀ {s a s'}, Inv s → (f s a = .ok s' ↔ Fit a ∧ s' = next s a ∧ Inv s'))
    (earlier : ∀ {s a}, Inv (next s a) → Inv s) {l : List α} {s s' : σ} (inv : Inv s) :
    l.foldlM f s = .ok s' ↔ (∀ a ∈ l, Fit a) ∧ s' = l.foldl next s ∧ Inv s' := by
  have before : ∀ (l : List α) {s : σ}, Inv (l.foldl next s) → Inv s := by
    intro l
    induction l with
    | nil => exact fun h => h
    | cons a l ih => exact fun h => earlier (ih h)
  induction l generalizing s with
  | nil =>
    rw [List.foldlM_nil, pure_eq_ok, List.foldl_nil]
    constructor
    · rintro rfl
      exact ⟨nofun, rfl, inv⟩
    · rintro ⟨-, rfl, -⟩
      rfl
  | cons a l ih =>
    rw [foldlM_cons_eq_ok, List.forall_mem_cons, List.foldl_cons]
    constructor
    · rintro ⟨s₁, first, rest⟩
      obtain ⟨fit, rfl, inv₁⟩ := (step inv).mp first
      obtain ⟨all, done, inv'⟩ := (ih inv₁).mp rest
      exact ⟨⟨fit, all⟩, done, inv'⟩
    · rintro ⟨⟨fit, all⟩, rfl, inv'⟩
      have inv₁ : Inv (next s a) := before l inv'
      exact ⟨_, (step inv).mpr ⟨fit, rfl, inv₁⟩, (ih inv₁).mpr ⟨all, rfl, inv'⟩⟩

end Tablecast
