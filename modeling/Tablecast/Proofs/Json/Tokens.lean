import Mathlib.Data.List.TakeWhile
import Mathlib.Tactic.SplitIfs
import Tablecast.Json.Shape
import Tablecast.Proofs.Json.Grammar

/-!
# Between the tokens

What readers do where blanks may stand: they step over the blanks to the next element or member of
a list or an object, or to its end, and they accept nothing else there.

* `nextElement_lead`, `nextElement_close`, `nextElement_ok`: in a list,
* `nextKey_lead`, `nextKey_close`, `nextKey_ok`, `readColon_written`, `readColon_ok`: in an object.
-/

namespace Tablecast.Json

/-! ## Blanks -/

theorem skipBlanks_append {blanks : List Char} (h : Blanks blanks) (s : List Char) :
    skipBlanks (blanks ++ s) = skipBlanks s := List.dropWhile_append_of_pos h

theorem skipBlanks_cons {c : Char} (solid : isBlank c = false) (s : List Char) :
    skipBlanks (c :: s) = c :: s :=
  List.dropWhile_cons_of_neg (Bool.eq_false_iff.mp solid)

theorem skipBlanks_split (s : List Char) : ∃ blanks, Blanks blanks ∧ s = blanks ++ skipBlanks s :=
  ⟨s.takeWhile isBlank, List.all_eq_true.mp List.all_takeWhile,
    List.takeWhile_append_dropWhile.symm⟩

theorem solid_of_skipBlanks {s more : List Char} {c : Char} (h : skipBlanks s = c :: more) :
    isBlank c = false := by
  have first := List.head?_dropWhile_not isBlank s
  rw [skipBlanks] at h
  rw [h] at first
  exact first

theorem skipBlanks_isEmpty_iff {s : List Char} : (skipBlanks s).isEmpty = true ↔ Blanks s := by
  rw [List.isEmpty_iff, skipBlanks, List.dropWhile_eq_nil_iff, Blanks]

/-! ## Lists -/

/-- Behind its lead, the next element is found. -/
theorem nextElement_lead {first : Bool} {lead : List Char} (h : Lead first lead) {c : Char}
    (solid : isBlank c = false) (bracket : c ≠ ']') (s : List Char) :
    nextElement first (lead ++ c :: s) = .ok (true, c :: s) := by
  cases h with
  | first before =>
    rw [nextElement, skipBlanks_append before, skipBlanks_cons solid]
    simp
  | next before after =>
    have comma : isBlank ',' = false := by decide
    rw [nextElement, List.append_assoc, skipBlanks_append before, List.cons_append,
      skipBlanks_cons comma]
    simp [bracket, skipBlanks_append after, skipBlanks_cons solid]

theorem nextElement_close {blanks : List Char} (h : Blanks blanks) (first : Bool)
    (rest : List Char) : nextElement first (blanks ++ ']' :: rest) = .ok (false, rest) := by
  have bracket : isBlank ']' = false := by decide
  rw [nextElement, skipBlanks_append h, skipBlanks_cons bracket]
  rfl

theorem nextElement_ok {first found : Bool} {s rest : List Char}
    (h : nextElement first s = .ok (found, rest)) :
    if found then ∃ lead, Lead first lead ∧ s = lead ++ rest
    else ∃ blanks, Blanks blanks ∧ s = blanks ++ ']' :: rest := by
  obtain ⟨blanks, areBlanks, split⟩ := skipBlanks_split s
  rw [nextElement] at h
  split at h
  next => cases h
  next tail token =>
    obtain ⟨rfl, rfl⟩ := Prod.mk.inj (Except.ok.inj h)
    rw [token] at split
    exact ⟨blanks, areBlanks, split⟩
  next c tail _ token =>
    rw [token] at split
    split_ifs at h with isFirst comma
    · obtain ⟨rfl, rfl⟩ := Prod.mk.inj (Except.ok.inj h)
      subst isFirst
      exact ⟨blanks, .first areBlanks, split⟩
    · obtain ⟨blanks', areBlanks', split'⟩ := skipBlanks_split tail
      split at h
      next => cases h
      next => cases h
      next =>
        obtain ⟨rfl, rfl⟩ := Prod.mk.inj (Except.ok.inj h)
        obtain rfl := Bool.eq_false_iff.mpr isFirst
        obtain rfl := not_not.mp comma
        refine ⟨blanks ++ ',' :: blanks', .next areBlanks areBlanks', ?_⟩
        rw [List.append_assoc, List.cons_append, ← split']
        exact split

namespace Shape

theorem closeList_written {blanks : List Char} (h : Blanks blanks) (rest : List Char) :
    closeList (blanks ++ ']' :: rest) = .ok rest := by
  have bracket : isBlank ']' = false := by decide
  rw [closeList, skipBlanks_append h, skipBlanks_cons bracket]
  rfl

theorem closeList_ok {s rest : List Char} (h : closeList s = .ok rest) :
    ∃ blanks, Blanks blanks ∧ s = blanks ++ ']' :: rest := by
  obtain ⟨blanks, areBlanks, split⟩ := skipBlanks_split s
  rw [closeList] at h
  split at h
  next => cases h
  next tail token =>
    obtain rfl := Except.ok.inj h
    rw [token] at split
    exact ⟨blanks, areBlanks, split⟩
  next => split at h <;> cases h
  next => cases h

/-! ## Objects -/

theorem nextKey_lead {first : Bool} {lead : List Char} (h : Lead first lead) (s : List Char) :
    nextKey first (lead ++ '"' :: s) = .ok (true, s) := by
  have quote : isBlank '"' = false := by decide
  cases h with
  | first before =>
    rw [nextKey, skipBlanks_append before, skipBlanks_cons quote]
    rfl
  | next before after =>
    have comma : isBlank ',' = false := by decide
    rw [nextKey, List.append_assoc, skipBlanks_append before, List.cons_append,
      skipBlanks_cons comma]
    simp [skipBlanks_append after, skipBlanks_cons quote]

theorem nextKey_close {blanks : List Char} (h : Blanks blanks) (first : Bool)
    (rest : List Char) : nextKey first (blanks ++ '}' :: rest) = .ok (false, rest) := by
  have brace : isBlank '}' = false := by decide
  rw [nextKey, skipBlanks_append h, skipBlanks_cons brace]
  rfl

theorem nextKey_ok {first found : Bool} {s rest : List Char}
    (h : nextKey first s = .ok (found, rest)) :
    if found then ∃ lead, Lead first lead ∧ s = lead ++ '"' :: rest
    else ∃ blanks, Blanks blanks ∧ s = blanks ++ '}' :: rest := by
  obtain ⟨blanks, areBlanks, split⟩ := skipBlanks_split s
  rw [nextKey] at h
  split at h
  next => cases h
  next tail token =>
    obtain ⟨rfl, rfl⟩ := Prod.mk.inj (Except.ok.inj h)
    rw [token] at split
    exact ⟨blanks, areBlanks, split⟩
  next c tail _ token =>
    rw [token] at split
    split_ifs at h with isFirst quote comma
    · obtain ⟨rfl, rfl⟩ := Prod.mk.inj (Except.ok.inj h)
      subst isFirst quote
      exact ⟨blanks, .first areBlanks, split⟩
    · obtain ⟨blanks', areBlanks', split'⟩ := skipBlanks_split tail
      split at h
      next => cases h
      next key token' =>
        obtain ⟨rfl, rfl⟩ := Prod.mk.inj (Except.ok.inj h)
        obtain rfl := Bool.eq_false_iff.mpr isFirst
        obtain rfl := not_not.mp comma
        rw [token'] at split'
        refine ⟨blanks ++ ',' :: blanks', .next areBlanks areBlanks', ?_⟩
        rw [List.append_assoc, List.cons_append, ← split']
        exact split
      next => cases h
      next => cases h

theorem readColon_written {blanks : List Char} (h : Blanks blanks) (s : List Char) :
    readColon (blanks ++ ':' :: s) = .ok s := by
  have colon : isBlank ':' = false := by decide
  rw [readColon, skipBlanks_append h, skipBlanks_cons colon]
  rfl

theorem readColon_ok {s rest : List Char} (h : readColon s = .ok rest) :
    ∃ blanks, Blanks blanks ∧ s = blanks ++ ':' :: rest := by
  obtain ⟨blanks, areBlanks, split⟩ := skipBlanks_split s
  rw [readColon] at h
  split at h
  next => cases h
  next tail token =>
    obtain rfl := Except.ok.inj h
    rw [token] at split
    exact ⟨blanks, areBlanks, split⟩
  next => cases h

end Shape

end Tablecast.Json
