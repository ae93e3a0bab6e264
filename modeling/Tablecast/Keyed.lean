/-!
# Keyed lists

A list of entries in increasing order of their keys, each key once, stands for a finite map.
`List.lookup` reads it.

* `lookup_insert`, `lookup_erase`: one key is affected, and what is found under any other stays.
-/

namespace Tablecast.Keyed

variable {κ α : Type} [DecidableEq κ] [LT κ] [DecidableLT κ]

/-- Puts an entry in its place, in place of an entry with the same key. -/
def insert (k : κ) (x : α) : List (κ × α) → List (κ × α)
  | [] => [(k, x)]
  | (k', x') :: rest =>
    if k < k' then (k, x) :: (k', x') :: rest
    else if k = k' then (k, x) :: rest
    else (k', x') :: insert k x rest

/-- Entries in any order; of two with one key the later counts. -/
def ofList (entries : List (κ × α)) : List (κ × α) :=
  entries.foldl (fun m e => insert e.1 e.2 m) []

/-- Puts in what each element has under its key, one element after the other. The first failure is
the result. -/
def collect {ε β : Type} (key : α → κ) (entry : α → Except ε (Option β)) :
    List α → List (κ × β) → Except ε (List (κ × β))
  | [], entries => .ok entries
  | a :: rest, entries => do
    match ← entry a with
    | some b => collect key entry rest (insert (key a) b entries)
    | none => collect key entry rest entries

def erase (k : κ) (entries : List (κ × α)) : List (κ × α) :=
  entries.filter fun e => e.1 ≠ k

section Lookup

variable [BEq κ] [LawfulBEq κ]

omit [LT κ] [DecidableLT κ] in
theorem lookup_cons (k j : κ) (x : α) (l : List (κ × α)) :
    ((k, x) :: l).lookup j = if j = k then some x else l.lookup j := by
  by_cases same : j = k
  · simp [same]
  · simp [same, List.lookup_cons, beq_false_of_ne same]

theorem lookup_insert (k j : κ) (x : α) (l : List (κ × α)) :
    (insert k x l).lookup j = if j = k then some x else l.lookup j := by
  induction l with
  | nil => rw [insert, lookup_cons]
  | cons e rest ih =>
    obtain ⟨i, y⟩ := e
    simp only [insert]
    split
    · rw [lookup_cons]
    · split
      · next hk =>
        subst hk
        rw [lookup_cons, lookup_cons]
        by_cases same : j = k
        · rw [if_pos same, if_pos same]
        · rw [if_neg same, if_neg same, if_neg same]
      · next hk =>
        rw [lookup_cons, lookup_cons, ih]
        by_cases same : j = k
        · subst same
          rw [if_neg hk, if_pos rfl, if_pos rfl]
        · rw [if_neg same, if_neg same]

omit [LT κ] [DecidableLT κ] in
theorem lookup_erase (k j : κ) (l : List (κ × α)) :
    (erase k l).lookup j = if j = k then none else l.lookup j := by
  induction l with
  | nil => simp [erase]
  | cons e rest ih =>
    obtain ⟨i, x⟩ := e
    rw [erase] at ih ⊢
    by_cases gone : i = k
    · subst gone
      rw [List.filter_cons_of_neg (by simp), ih, lookup_cons]
      by_cases same : j = i
      · rw [if_pos same, if_pos same]
      · rw [if_neg same, if_neg same, if_neg same]
    · rw [List.filter_cons_of_pos (by simpa using gone), lookup_cons, lookup_cons, ih]
      by_cases same : j = i
      · subst same
        rw [if_pos rfl, if_neg gone, if_pos rfl]
      · rw [if_neg same, if_neg same]

end Lookup

end Tablecast.Keyed
