import Mathlib.Data.List.TakeWhile
import Tablecast.Text.Blank

/-!
# Trimming and splitting

What a text is once the blanks around it are gone, what stands in front of a mark and behind it,
and what the pieces are that a text falls into.
-/

namespace Tablecast.Text

theorem map_eq_self {α : Type} {f : α → α} {l : List α} (kept : ∀ a ∈ l, f a = a) :
    l.map f = l := by
  calc l.map f
      = l.map id := List.map_congr_left kept
    _ = l := List.map_id l

theorem trim_eq_nil {s : List Char} : trim s = [] ↔ ∀ c ∈ s, isBlank c = true := by
  have start : (∀ c ∈ s.dropWhile isBlank, isBlank c = true) ↔ ∀ c ∈ s, isBlank c = true := by
    induction s with
    | nil => simp
    | cons c rest ih => cases h : isBlank c <;> simp [h, ih]
  simp only [trim, trimEnd, trimStart, List.reverse_eq_nil_iff, List.dropWhile_eq_nil_iff,
    List.mem_reverse, start]

theorem trim_eq_self {s : List Char} (solid : ∀ c ∈ s, isBlank c = false) : trim s = s := by
  have keeps {t : List Char} (h : ∀ c ∈ t, isBlank c = false) : t.dropWhile isBlank = t :=
    List.dropWhile_eq_self_iff.mpr fun nonempty => by simp [h _ (List.getElem_mem nonempty)]
  rw [trim, trimEnd, trimStart, keeps solid, keeps fun c m => solid c (List.mem_reverse.mp m),
    List.reverse_reverse]

/-- What ends solid stays when blanks behind it go. -/
theorem trimEnd_append {s t : List Char} (solid : trimEnd s = s) :
    trimEnd (s ++ t) = s ++ trimEnd t := by
  have kept : s.reverse.dropWhile isBlank = s.reverse := by
    rw [← List.reverse_inj, List.reverse_reverse]
    exact solid
  simp only [trimEnd, List.reverse_append, List.dropWhile_append]
  split
  next gone => rw [kept, List.isEmpty_iff.mp gone]; simp
  next => simp

theorem mem_of_mem_trimEnd {s : List Char} {c : Char} (h : c ∈ trimEnd s) : c ∈ s :=
  List.mem_reverse.mp ((List.dropWhile_sublist isBlank).subset (List.mem_reverse.mp h))

/-- A text is vacant if nothing is left of it once it is trimmed. -/
theorem isVacant_eq_false {s : String} : isVacant s = false ↔ trim s.toList ≠ [] := by
  rw [ne_eq, trim_eq_nil, isVacant, ← List.all_eq_true, Bool.not_eq_true]

/-! ## Up to a mark -/

section

variable {α : Type} {p : α → Bool} {front : List α} {mark : α}

theorem takeWhile_append_mark (inside : ∀ a ∈ front, p a = true) (stops : p mark = false)
    (behind : List α) : (front ++ mark :: behind).takeWhile p = front := by
  rw [List.takeWhile_append_of_pos inside,
    List.takeWhile_cons_of_neg (Bool.eq_false_iff.mp stops), List.append_nil]

theorem dropWhile_append_mark (inside : ∀ a ∈ front, p a = true) (stops : p mark = false)
    (behind : List α) : (front ++ mark :: behind).dropWhile p = mark :: behind := by
  rw [List.dropWhile_append_of_pos inside,
    List.dropWhile_cons_of_neg (Bool.eq_false_iff.mp stops)]

theorem bne_of_notMem [BEq α] [LawfulBEq α] (h : mark ∉ front) :
    ∀ a ∈ front, (a != mark) = true := by
  intro a ha
  rw [bne_iff_ne]
  rintro rfl
  exact h ha

end

/-! ## Pieces -/

theorem pieces_eq_singleton {p : Char → Bool} {s : List Char} (none : ∀ c ∈ s, p c = false) :
    pieces p s = [s] := by
  induction s with
  | nil => rfl
  | cons c rest ih =>
    rw [List.forall_mem_cons] at none
    rw [pieces, none.1, ih none.2]
    rfl

theorem pieces_ne_nil (p : Char → Bool) (s : List Char) : pieces p s ≠ [] := by
  induction s with
  | nil => exact List.cons_ne_nil _ _
  | cons c rest ih =>
    unfold pieces
    split
    · exact List.cons_ne_nil _ _
    · exact fun empty => ih (List.modifyHead_eq_nil_iff.mp empty)

/-- Splitting loses the separators and nothing else. -/
theorem flatten_pieces (p : Char → Bool) (s : List Char) :
    (pieces p s).flatten = s.filter (!p ·) := by
  induction s with
  | nil => rfl
  | cons c rest ih =>
    rw [pieces, List.filter_cons]
    by_cases separates : p c = true
    · simpa [separates] using ih
    · obtain ⟨first, others, cut⟩ := List.exists_cons_of_ne_nil (pieces_ne_nil p rest)
      rw [cut, List.flatten_cons] at ih
      simp [separates, cut, ih]

theorem of_mem_pieces {p : Char → Bool} {s piece : List Char} (h : piece ∈ pieces p s) :
    ∀ c ∈ piece, p c = false ∧ c ∈ s := by
  intro c hc
  have kept : c ∈ (pieces p s).flatten := List.mem_flatten.mpr ⟨piece, h, hc⟩
  rw [flatten_pieces, List.mem_filter, Bool.not_eq_true'] at kept
  exact kept.symm

/-- Every character of a text separates pieces or is in one. -/
theorem separates_or_mem_pieces {p : Char → Bool} {s : List Char} {c : Char} (h : c ∈ s) :
    p c = true ∨ ∃ piece ∈ pieces p s, c ∈ piece := by
  by_cases separates : p c = true
  · exact .inl separates
  · right
    rw [← List.mem_flatten, flatten_pieces, List.mem_filter, Bool.not_eq_true']
    exact ⟨h, Bool.eq_false_iff.mpr separates⟩

/-- A separator cuts a text in two. -/
theorem pieces_append_cons {p : Char → Bool} {s rest : List Char} {c : Char}
    (separates : p c = true) : pieces p (s ++ c :: rest) = pieces p s ++ pieces p rest := by
  induction s with
  | nil => simp [pieces, separates]
  | cons d s ih =>
    rw [List.cons_append, pieces, pieces, ih]
    cases p d with
    | true => rfl
    | false =>
      obtain ⟨first, others, cut⟩ := List.exists_cons_of_ne_nil (pieces_ne_nil p s)
      simp [cut]

theorem words_eq_singleton {s : List Char} (solid : ∀ c ∈ s, isBlank c = false)
    (nonempty : s ≠ []) : words s = [s] := by
  simp [words, pieces_eq_singleton solid, nonempty]

end Tablecast.Text
