import Mathlib.Data.List.DropRight
import Tablecast.Proofs.Text.Line

/-!
# The lines of a comment

A comment comes out line by line: behind the mark stands what its own line holds, less the blanks
at its end. A line ends at a line feed or at a carriage return right before one, so that neither
comes out, but a carriage return that stands elsewhere is a character like any other.

* `map_trimEnd_pieces`: without their last blanks, lines are what lies between line feeds;
* `return_mem_trimEnd`: when a line keeps a carriage return;
* `commentLines_eq_sourceLines`: what a comment becomes, and when no carriage return is left.
-/

namespace Tablecast.Text

open Artifact

/-- The lines of a text. Each ends at a line feed, with a carriage return right before it, or at
the end of the text, where nothing is no line. -/
def sourceLines : List Char → List (List Char)
  | [] => []
  | '\r' :: '\n' :: rest => [] :: sourceLines rest
  | '\n' :: rest => [] :: sourceLines rest
  | c :: rest =>
    match sourceLines rest with
    | [] => [[c]]
    | line :: later => (c :: line) :: later

/-- A mark, with a space and what a line holds unless that is blank. -/
def markedLine (mark : String) (line : List Char) : String :=
  if trimEnd line = [] then mark else mark ++ " " ++ .ofList (trimEnd line)

/-- Two or three slashes, indented or not. -/
def IsMark (mark : String) : Prop :=
  ∃ indent, mark.toList = List.replicate indent ' ' ++ ['/', '/'] ∨
    mark.toList = List.replicate indent ' ' ++ ['/', '/', '/']

/-! ## Trimming a line -/

theorem trimEnd_cons (c : Char) (s : List Char) :
    trimEnd (c :: s) =
      if trimEnd s = [] then (if isBlank c then [] else [c]) else c :: trimEnd s := by
  simp only [trimEnd, List.reverse_cons, List.dropWhile_append, List.reverse_eq_nil_iff,
    List.isEmpty_iff]
  split
  · cases blank : isBlank c <;> simp [blank]
  · simp

theorem trimEnd_cons_congr {s t : List Char} (same : trimEnd s = trimEnd t) (c : Char) :
    trimEnd (c :: s) = trimEnd (c :: t) := by
  rw [trimEnd_cons, trimEnd_cons, same]

theorem trimEnd_eq_nil {s : List Char} : trimEnd s = [] ↔ ∀ c ∈ s, isBlank c = true := by
  simp [trimEnd]

/-- A carriage return stays if something that is no blank stands behind it. -/
theorem return_mem_trimEnd {line : List Char} :
    '\r' ∈ trimEnd line ↔
      ∃ before behind, line = before ++ '\r' :: behind ∧ ∃ c ∈ behind, isBlank c = false := by
  constructor
  · intro kept
    induction line with
    | nil => exact absurd kept List.not_mem_nil
    | cons c rest ih =>
      rw [trimEnd_cons] at kept
      split_ifs at kept with ends blank
      · exact absurd kept List.not_mem_nil
      · rw [← List.mem_singleton.mp kept] at blank
        exact absurd (by decide) blank
      · rcases List.mem_cons.mp kept with rfl | later
        · simp only [trimEnd_eq_nil, not_forall, Bool.not_eq_true, exists_prop] at ends
          exact ⟨[], rest, rfl, ends⟩
        · obtain ⟨before, behind, rfl, solid⟩ := ih later
          exact ⟨c :: before, behind, rfl, solid⟩
  · rintro ⟨before, behind, rfl, c, mem, solid⟩
    have stays : trimEnd ('\r' :: behind) = '\r' :: trimEnd behind := by
      rw [trimEnd_cons, if_neg]
      intro blank
      exact absurd (trimEnd_eq_nil.mp blank c mem) (by simp [solid])
    induction before with
    | nil => rw [List.nil_append, stays]; exact List.mem_cons_self
    | cons d before ih =>
      rw [List.cons_append, trimEnd_cons, if_neg (List.ne_nil_of_mem ih)]
      exact List.mem_cons_of_mem d ih

theorem trimEnd_trimEnd (s : List Char) : trimEnd (trimEnd s) = trimEnd s := by
  rw [trimEnd, trimEnd, List.reverse_reverse, List.dropWhile_idempotent]

/-! ## Lines and pieces -/

theorem sourceLines_eq_nil {s : List Char} : sourceLines s = [] ↔ s = [] := by
  fun_cases sourceLines s <;> simp_all

/-- **Lines are what lies between line feeds**, but for the blanks at their ends. The text must not
end in a line feed. -/
theorem map_trimEnd_pieces {s : List Char} (filled : s ≠ []) (ends : s.getLast? ≠ some '\n') :
    (pieces (· == '\n') s).map trimEnd = (sourceLines s).map trimEnd := by
  induction s using sourceLines.induct with
  | case1 => exact absurd rfl filled
  | case2 rest ih =>
    -- The carriage return ends a piece, where it is a blank like others.
    have behind : rest ≠ [] := by rintro rfl; exact ends rfl
    rw [List.getLast?_cons_cons, List.getLast?_cons_of_ne_nil behind] at ends
    have later := ih behind ends
    rw [sourceLines, List.map_cons, ← later]
    rfl
  | case3 rest ih =>
    have behind : rest ≠ [] := by rintro rfl; exact ends rfl
    rw [List.getLast?_cons_of_ne_nil behind] at ends
    have later := ih behind ends
    rw [sourceLines, List.map_cons, ← later]
    rfl
  | case4 c rest notReturn notFeed last =>
    have empty : rest = [] := sourceLines_eq_nil.mp last
    subst empty
    have alone : sourceLines [c] = [[c]] := by
      rw [sourceLines.eq_4 c [] notReturn notFeed]
      rfl
    rw [alone, pieces_eq_singleton (by simpa using notFeed)]
  | case5 c rest notReturn notFeed line later cut ih =>
    have filled : rest ≠ [] := by rintro rfl; cases cut
    rw [List.getLast?_cons_of_ne_nil filled] at ends
    have same := ih filled ends
    obtain ⟨first, others, parts⟩ := List.exists_cons_of_ne_nil (pieces_ne_nil (· == '\n') rest)
    rw [cut, parts, List.map_cons, List.map_cons, List.cons.injEq] at same
    have keeps : (c == '\n') = false := by simpa using notFeed
    rw [sourceLines.eq_4 c rest notReturn notFeed, cut, pieces, keeps, parts]
    simp [trimEnd_cons_congr same.1, same.2]

/-! ## Comments -/

/-- The marks of the artifacts. -/
theorem isMark_of_mem {mark : String}
    (h : mark ∈ ["//", "///", wireMargin ++ "//", margin ++ "///"]) : IsMark mark := by
  simp only [List.mem_cons, List.not_mem_nil, or_false] at h
  rcases h with rfl | rfl | rfl | rfl
  · exact ⟨0, .inl rfl⟩
  · exact ⟨0, .inr rfl⟩
  · exact ⟨2, .inl rfl⟩
  · exact ⟨4, .inr rfl⟩

theorem IsMark.solid {mark : String} (h : IsMark mark) : trimEnd mark.toList = mark.toList := by
  obtain ⟨indent, slashes | slashes⟩ := h <;> rw [slashes] <;>
    simp [trimEnd, show isBlank '/' = false from by decide]

theorem IsMark.mem {mark : String} (h : IsMark mark) {c : Char} (mem : c ∈ mark.toList) :
    c = ' ' ∨ c = '/' := by
  obtain ⟨indent, slashes | slashes⟩ := h <;> rw [slashes] at mem <;> simp at mem <;>
    exact mem.imp_left And.right

theorem commentLine_eq {mark : String} (solid : trimEnd mark.toList = mark.toList)
    (line : List Char) : .ofList (commentLine mark.toList line) = markedLine mark line := by
  rw [commentLine, trimEnd_append solid, trimEnd_cons, trimEnd_trimEnd, markedLine,
    ← String.toList_inj]
  split_ifs with blank space
  · simp
  · exact absurd (by decide) space
  · simp

/-- What is trimmed ends in no blank. -/
theorem getLast?_trim_ne {s : List Char} {c : Char} (blank : isBlank c = true) :
    (trim s).getLast? ≠ some c := by
  intro last
  rw [trim, trimEnd, List.getLast?_reverse] at last
  have := List.head?_dropWhile_not isBlank (trimStart s).reverse
  simp [last, blank] at this

theorem commentLines_eq_map {mark : String} (solid : trimEnd mark.toList = mark.toList)
    (text : String) :
    commentLines (some text) mark =
      (sourceLines (trim text.toList)).map (markedLine mark) := by
  unfold commentLines
  dsimp only
  split
  · next blank => rw [blank]; rfl
  · next filled =>
    have same := map_trimEnd_pieces filled (getLast?_trim_ne (by decide))
    have reads : markedLine mark =
        (fun kept => if kept = [] then mark else mark ++ " " ++ .ofList kept) ∘ trimEnd := rfl
    simp only [commentLine_eq solid, reads, ← List.map_map, same]

theorem return_mem_markedLine {mark : String} (h : IsMark mark) (line : List Char) :
    '\r' ∈ (markedLine mark line).toList ↔ '\r' ∈ trimEnd line := by
  have clean : '\r' ∉ mark.toList := fun mem => by simpa using h.mem mem
  unfold markedLine
  split
  · next blank => simp [blank, clean]
  · simp [clean]

/-- **A comment comes out line by line.** For every line of the trimmed text there is one line: the
mark, then what that line holds less the blanks at its end. None holds a line feed, and none holds
a carriage return unless one of the lines has one with more than blanks behind it. -/
theorem commentLines_eq_sourceLines {mark : String} (h : IsMark mark) (text : String) :
    commentLines (some text) mark = (sourceLines (trim text.toList)).map (markedLine mark) ∧
      (commentLines (some text) mark).length = (sourceLines (trim text.toList)).length ∧
      (commentLines (some text) mark = [] ↔ ∀ c ∈ text.toList, isBlank c = true) ∧
      (∀ line ∈ commentLines (some text) mark, IsLine line ∧ ∃ rest, line = mark ++ rest) ∧
      ((∀ line ∈ commentLines (some text) mark, '\r' ∉ line.toList) ↔
        ∀ line ∈ sourceLines (trim text.toList), ∀ before behind,
          line = before ++ '\r' :: behind → ∀ c ∈ behind, isBlank c = true) := by
  have lines := commentLines_eq_map h.solid text
  have single : IsLine mark := fun mem => by simpa using h.mem mem
  refine ⟨lines, by rw [lines, List.length_map], ?_,
    fun line => mem_commentLines h.solid single, ?_⟩
  · rw [lines, List.map_eq_nil_iff, sourceLines_eq_nil, trim_eq_nil]
  simp only [lines, List.forall_mem_map, return_mem_markedLine h, return_mem_trimEnd]
  simp

/-- Lines of all endings, one of them blank. -/
theorem mixedEndings_marked :
    IsMark (margin ++ "///") ∧
      commentLines (some " first\r\n\r\n\tsecond \r\nthird\n") (margin ++ "///") =
        ["    /// first", "    ///", "    /// \tsecond", "    /// third"] := by
  have isMark : IsMark (margin ++ "///") := isMark_of_mem (by simp)
  refine ⟨isMark, ?_⟩
  rw [(commentLines_eq_sourceLines isMark _).1]
  decide +kernel

/-- A carriage return in the middle of a line comes out as it is. -/
theorem bareReturn_kept :
    IsMark "///" ∧ ∃ line ∈ commentLines (some "first\rsecond") "///", '\r' ∈ line.toList :=
  ⟨isMark_of_mem (by simp), by decide +kernel⟩

end Tablecast.Text
