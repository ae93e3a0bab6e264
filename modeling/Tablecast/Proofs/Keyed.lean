import Mathlib.Data.List.Nodup
import Mathlib.Order.Defs.Unbundled
import Tablecast.Keyed
import Tablecast.Proofs.Success

/-!
# Ordered keyed lists

Entries in strictly increasing order of their keys are determined by what is found under each key.
Collecting gives such entries: what each element has stands under its key, and nothing else stands
anywhere.

* `ordered_insert`, `mem_iff_lookup`, `ext`: a finite map has one list;
* `keys_perm`: the keys, from what is found under them;
* `collect_eq_ok`: what collecting gives, by look-ups;
* `exists_collect`: collecting fails only where an element does.
-/

namespace Tablecast

theorem mem_of_lookup {κ α : Type} [DecidableEq κ] {k : κ} {x : α} {l : List (κ × α)}
    (h : l.lookup k = some x) : (k, x) ∈ l := by
  obtain ⟨before, after, rfl, -⟩ := List.lookup_eq_some_iff.mp h
  exact List.mem_append_right _ List.mem_cons_self

namespace Keyed

variable {κ α β ε : Type} [LT κ]

def Ordered (l : List (κ × β)) : Prop := l.Pairwise fun a b => a.1 < b.1

theorem ordered_nil : Ordered ([] : List (κ × β)) := .nil

section Order

variable [Std.Asymm (α := κ) (· < ·)]

theorem Ordered.keys_nodup {l : List (κ × β)} (h : Ordered l) : (l.map Prod.fst).Nodup := by
  refine List.Pairwise.map Prod.fst ?_ h
  intro a b lt same
  rw [same] at lt
  exact irrefl _ lt

theorem Ordered.nodup {l : List (κ × β)} (h : Ordered l) : l.Nodup := .of_map _ h.keys_nodup

variable [DecidableEq κ]

theorem mem_iff_lookup {l : List (κ × β)} (h : Ordered l) {k : κ} {x : β} :
    (k, x) ∈ l ↔ l.lookup k = some x := by
  induction l with
  | nil => simp
  | cons e l ih =>
    obtain ⟨j, y⟩ := e
    obtain ⟨first, rest⟩ := List.pairwise_cons.mp h
    by_cases same : k = j
    · subst same
      have absent : (k, x) ∉ l := fun hx => irrefl k (first _ hx)
      simp [absent, eq_comm]
    · simp [same, List.lookup_cons, beq_false_of_ne same, ih rest]

/-- The same is found under every key of both lists only if they are the same. -/
theorem ext {l m : List (κ × β)} (hl : Ordered l) (hm : Ordered m)
    (same : ∀ k, l.lookup k = m.lookup k) : l = m := by
  have perm : l.Perm m := by
    refine (List.perm_ext_iff_of_nodup hl.nodup hm.nodup).mpr fun e => ?_
    rw [mem_iff_lookup hl, mem_iff_lookup hm, same]
  exact perm.eq_of_pairwise (fun a b _ _ ab ba => absurd ba (asymm ab)) hl hm

theorem mem_keys_iff {l : List (κ × β)} (h : Ordered l) {k : κ} :
    k ∈ l.map Prod.fst ↔ (l.lookup k).isSome := by
  rw [List.mem_map, Option.isSome_iff_exists]
  constructor
  · rintro ⟨⟨_, x⟩, hx, rfl⟩
    exact ⟨x, (mem_iff_lookup h).mp hx⟩
  · rintro ⟨x, hx⟩
    exact ⟨(k, x), (mem_iff_lookup h).mpr hx, rfl⟩

/-- The keys are those of the elements for which something is found. -/
theorem keys_perm {as : List α} {key : α → κ} (nodup : (as.map key).Nodup) {keep : α → Bool}
    {l : List (κ × β)} (ordered : Ordered l)
    (here : ∀ a ∈ as, (l.lookup (key a)).isSome = keep a)
    (elsewhere : ∀ k ∉ as.map key, l.lookup k = none) :
    (l.map Prod.fst).Perm ((as.filter keep).map key) := by
  have distinct : ((as.filter keep).map key).Nodup :=
    nodup.sublist (List.filter_sublist.map key)
  refine (List.perm_ext_iff_of_nodup ordered.keys_nodup distinct).mpr fun k => ?_
  rw [mem_keys_iff ordered, List.mem_map]
  constructor
  · intro found
    have declared : k ∈ as.map key := by
      by_contra foreign
      rw [elsewhere k foreign] at found
      cases found
    obtain ⟨a, ha, rfl⟩ := List.mem_map.mp declared
    exact ⟨a, List.mem_filter.mpr ⟨ha, here a ha ▸ found⟩, rfl⟩
  · rintro ⟨a, kept, rfl⟩
    obtain ⟨ha, keep_a⟩ := List.mem_filter.mp kept
    rw [here a ha, keep_a]

end Order

section Insert

variable [DecidableEq κ] [DecidableLT κ]

theorem mem_insert {k : κ} {x : β} {l : List (κ × β)} {e : κ × β} (h : e ∈ insert k x l) :
    e = (k, x) ∨ e ∈ l := by
  induction l with
  | nil => exact .inl (List.mem_singleton.mp h)
  | cons f l ih =>
    simp only [insert] at h
    split at h
    · exact List.mem_cons.mp h
    · split at h
      · exact (List.mem_cons.mp h).imp_right (List.mem_cons_of_mem f)
      · rcases List.mem_cons.mp h with rfl | h
        · exact .inr List.mem_cons_self
        · exact (ih h).imp_right (List.mem_cons_of_mem f)

theorem ordered_insert [IsTrans κ (· < ·)] [Std.Trichotomous (α := κ) (· < ·)] {l : List (κ × β)}
    (h : Ordered l) (k : κ) (x : β) : Ordered (insert k x l) := by
  induction l with
  | nil => exact List.pairwise_singleton _ _
  | cons f l ih =>
    obtain ⟨first, rest⟩ := List.pairwise_cons.mp h
    simp only [insert]
    split
    · next before =>
      refine List.pairwise_cons.mpr ⟨fun e he => ?_, h⟩
      rcases List.mem_cons.mp he with rfl | he
      · exact before
      · exact IsTrans.trans _ _ _ before (first e he)
    · next notBefore =>
      split
      · next same =>
        subst same
        exact List.pairwise_cons.mpr ⟨first, rest⟩
      · next different =>
        have after : f.1 < k := by
          rcases trichotomous_of (· < ·) k f.1 with lt | eq | lt
          · exact absurd lt notBefore
          · exact absurd eq different
          · exact lt
        refine List.pairwise_cons.mpr ⟨fun e he => ?_, ih rest⟩
        rcases mem_insert he with rfl | he
        · exact after
        · exact first e he

end Insert

/-! ## Collecting -/

section Collect

variable [DecidableEq κ] [DecidableLT κ] {key : α → κ} {entry : α → Except ε (Option β)}

theorem collect_cons_eq_ok {a : α} {l : List α} {entries m : List (κ × β)} :
    collect key entry (a :: l) entries = .ok m ↔
      ∃ found, entry a = .ok found ∧
        collect key entry l (found.elim entries fun b => insert (key a) b entries) = .ok m := by
  rw [collect, bind_eq_ok]
  refine exists_congr fun found => and_congr_right fun _ => ?_
  cases found with
  | none => rfl
  | some b => rfl

/-- Only the entries of the elements themselves count. -/
theorem collect_congr {entry' : α → Except ε (Option β)} {l : List α}
    (same : ∀ a ∈ l, entry a = entry' a) {entries : List (κ × β)} :
    collect key entry l entries = collect key entry' l entries := by
  induction l generalizing entries with
  | nil => rfl
  | cons a l ih =>
    obtain ⟨first, rest⟩ := List.forall_mem_cons.mp same
    rw [collect, collect, first]
    refine congrArg (entry' a >>= ·) (funext fun found => ?_)
    cases found with
    | none => exact ih rest
    | some b => exact ih rest

theorem exists_collect {l : List α} (h : ∀ a ∈ l, ∃ found, entry a = .ok found)
    (entries : List (κ × β)) : ∃ m, collect key entry l entries = .ok m := by
  induction l generalizing entries with
  | nil => exact ⟨entries, rfl⟩
  | cons a l ih =>
    obtain ⟨found, entry_a⟩ := h a List.mem_cons_self
    obtain ⟨m, rest⟩ := ih (fun b hb => h b (List.mem_cons_of_mem a hb))
      (found.elim entries fun b => insert (key a) b entries)
    exact ⟨m, collect_cons_eq_ok.mpr ⟨found, entry_a, rest⟩⟩

/-- What each element has is found under its key, and nothing else changes. -/
theorem lookup_collect {l : List α} (nodup : (l.map key).Nodup) {entries m : List (κ × β)}
    (absent : ∀ a ∈ l, entries.lookup (key a) = none)
    (h : collect key entry l entries = .ok m) :
    (∀ a ∈ l, entry a = .ok (m.lookup (key a))) ∧
      ∀ k ∉ l.map key, m.lookup k = entries.lookup k := by
  induction l generalizing entries with
  | nil =>
    cases h
    simp
  | cons a l ih =>
    obtain ⟨found, entry_a, rest⟩ := collect_cons_eq_ok.mp h
    obtain ⟨fresh, nodup⟩ := List.nodup_cons.mp nodup
    have step : ∀ k, (found.elim entries fun b => insert (key a) b entries).lookup k =
        if k = key a then found else entries.lookup k := by
      intro k
      cases found with
      | none => by_cases same : k = key a <;> simp [same, absent a List.mem_cons_self]
      | some b => exact lookup_insert (key a) k b entries
    have other : ∀ b ∈ l, key b ≠ key a := fun b hb same =>
      fresh (same ▸ List.mem_map_of_mem hb)
    obtain ⟨here, elsewhere⟩ := ih nodup (fun b hb => by
      rw [step, if_neg (other b hb), absent b (List.mem_cons_of_mem a hb)]) rest
    refine ⟨fun b hb => ?_, fun k hk => ?_⟩
    · rcases List.mem_cons.mp hb with rfl | hb
      · rw [elsewhere _ fresh, step, if_pos rfl, entry_a]
      · exact here b hb
    · rw [List.map_cons, List.mem_cons, not_or] at hk
      rw [elsewhere k hk.2, step, if_neg hk.1]

variable [IsTrans κ (· < ·)] [Std.Trichotomous (α := κ) (· < ·)]

theorem ordered_collect {l : List α} {entries m : List (κ × β)} (ordered : Ordered entries)
    (h : collect key entry l entries = .ok m) : Ordered m := by
  induction l generalizing entries with
  | nil =>
    cases h
    exact ordered
  | cons a l ih =>
    obtain ⟨found, -, rest⟩ := collect_cons_eq_ok.mp h
    refine ih ?_ rest
    cases found with
    | none => exact ordered
    | some b => exact ordered_insert ordered (key a) b

/-- **Collecting, by look-ups.** When no two elements share a key, the result is the one ordered
list in which each element's entry is found under its key and nothing under any other. -/
theorem collect_eq_ok [Std.Asymm (α := κ) (· < ·)] {l : List α} (nodup : (l.map key).Nodup)
    {m : List (κ × β)} :
    collect key entry l [] = .ok m ↔
      Ordered m ∧ (∀ a ∈ l, entry a = .ok (m.lookup (key a))) ∧
        ∀ k ∉ l.map key, m.lookup k = none := by
  have lookups : ∀ {n : List (κ × β)}, collect key entry l [] = .ok n →
      (∀ a ∈ l, entry a = .ok (n.lookup (key a))) ∧ ∀ k ∉ l.map key, n.lookup k = none :=
    fun h => lookup_collect nodup (fun _ _ => rfl) h
  constructor
  · intro h
    exact ⟨ordered_collect ordered_nil h, lookups h⟩
  · rintro ⟨ordered, here, elsewhere⟩
    obtain ⟨n, collected⟩ : ∃ n, collect key entry l [] = .ok n :=
      exists_collect (fun a ha => ⟨_, here a ha⟩) []
    have same : n = m := by
      refine ext (ordered_collect ordered_nil collected) ordered fun k => ?_
      by_cases hk : k ∈ l.map key
      · obtain ⟨a, ha, rfl⟩ := List.mem_map.mp hk
        have entries := ((lookups collected).1 a ha).symm.trans (here a ha)
        exact Except.ok.inj entries
      · rw [(lookups collected).2 k hk, elsewhere k hk]
    rw [collected, same]

end Collect

end Keyed

end Tablecast
