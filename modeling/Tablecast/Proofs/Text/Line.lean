import Mathlib.Data.List.Basic
import Tablecast.Artifact.Render
import Tablecast.Proofs.Declaration.Numeral

/-!
# Lines

An artifact is a list of lines joined by line feeds. It falls into these lines again as long as
none of them holds a line feed, and what goes into a line from outside never brings one: a comment
is cut at its line feeds, and quoted text escapes them.

* `mem_commentLines`: a line of a comment begins with the mark,
* `isLine_quote`: quoted text is one line,
* `lines_textOfLines_iff`: when the text of some lines falls into them.
-/

namespace Tablecast.Text

open Artifact

/-- The text holds no line feed. -/
def IsLine (s : String) : Prop := '\n' ∉ s.toList

instance (s : String) : Decidable (IsLine s) := inferInstanceAs (Decidable (¬ _))

/-- The lines that a text falls into: one more than there are line feeds. -/
def lines (s : String) : List String := (pieces (· == '\n') s.toList).map .ofList

@[simp] theorem isLine_append {a b : String} : IsLine (a ++ b) ↔ IsLine a ∧ IsLine b := by
  simp [IsLine]

theorem isLine_ofList {s : List Char} : IsLine (.ofList s) ↔ '\n' ∉ s := by
  simp [IsLine]

theorem isLine_toString (n : Nat) : IsLine (toString n) := fun feed =>
  have digit := Declaration.isDigit_of_mem_toDigits _ (Declaration.toList_toString_nat n ▸ feed)
  absurd digit (by decide)

theorem lines_of_isLine {s : String} (single : IsLine s) : lines s = [s] := by
  have whole : pieces (· == '\n') s.toList = [s.toList] := by
    apply pieces_eq_singleton
    intro c hc
    simpa using fun feed : c = '\n' => single (feed ▸ hc)
  rw [lines, whole, List.map_singleton, String.ofList_toList]

theorem isLine_of_mem_lines {s line : String} (h : line ∈ lines s) : IsLine line := by
  obtain ⟨piece, cut, rfl⟩ := List.mem_map.mp h
  rw [isLine_ofList]
  intro feed
  exact absurd (of_mem_pieces cut _ feed).1 (by decide)

/-! ## What stands in a line -/

/-- What stands between a head and a tail in a line that begins and ends with them. -/
def between? (head tail line : String) : Option String :=
  let inner := line.length - head.length - tail.length
  let x := String.ofList ((line.toList.drop head.length).take inner)
  if line = head ++ x ++ tail then some x else none

theorem between?_eq_some {head tail line x : String} :
    between? head tail line = some x ↔ line = head ++ x ++ tail := by
  rw [between?, Option.ite_none_right_eq_some, Option.some_inj]
  constructor
  · rintro ⟨whole, rfl⟩
    exact whole
  · rintro rfl
    have inner : String.ofList (((head ++ x ++ tail).toList.drop head.length).take
        ((head ++ x ++ tail).length - head.length - tail.length)) = x := by
      rw [← String.toList_inj]
      simp [← String.length_toList]
    rw [inner]
    exact ⟨rfl, rfl⟩

/-- Neither text begins with the other, so that nothing begins with both. -/
def StartsApart (a b : String) : Prop := ¬ a.toList <+: b.toList ∧ ¬ b.toList <+: a.toList

instance (a b : String) : Decidable (StartsApart a b) := inferInstanceAs (Decidable (_ ∧ _))

/-- Neither text ends with the other. -/
def EndsApart (a b : String) : Prop := ¬ a.toList <:+ b.toList ∧ ¬ b.toList <:+ a.toList

instance (a b : String) : Decidable (EndsApart a b) := inferInstanceAs (Decidable (_ ∧ _))

theorem StartsApart.append_ne {a b : String} (apart : StartsApart a b) (s r : String) :
    a ++ s ≠ b ++ r := by
  intro same
  have lists := congrArg String.toList same
  simp only [String.toList_append] at lists
  have begins : a.toList <+: b.toList ++ r.toList := lists ▸ List.prefix_append _ _
  rcases List.prefix_or_prefix_of_prefix begins (List.prefix_append _ _) with h | h
  · exact apart.1 h
  · exact apart.2 h

theorem EndsApart.append_ne {a b : String} (apart : EndsApart a b) (s r : String) :
    s ++ a ≠ r ++ b := by
  intro same
  have lists := congrArg String.toList same
  simp only [String.toList_append] at lists
  have ends : a.toList <:+ r.toList ++ b.toList := lists ▸ List.suffix_append _ _
  rcases List.suffix_or_suffix_of_suffix ends (List.suffix_append _ _) with h | h
  · exact apart.1 h
  · exact apart.2 h

theorem between?_of_startsApart {head tail start rest : String}
    (apart : StartsApart head start) : between? head tail (start ++ rest) = none := by
  rw [Option.eq_none_iff_forall_ne_some]
  intro x found
  have whole := between?_eq_some.mp found
  rw [String.append_assoc] at whole
  exact apart.append_ne _ _ whole.symm

theorem between?_of_endsApart {head tail line finish : String}
    (apart : EndsApart tail finish) : between? head tail (line ++ finish) = none := by
  rw [Option.eq_none_iff_forall_ne_some]
  intro x found
  exact apart.append_ne _ _ (between?_eq_some.mp found).symm

/-! ## Comments -/

/-- A line of a comment is the mark and more, all on one line. -/
theorem mem_commentLines {comment : Option String} {mark line : String}
    (solid : trimEnd mark.toList = mark.toList) (single : IsLine mark)
    (h : line ∈ commentLines comment mark) : IsLine line ∧ ∃ rest, line = mark ++ rest := by
  unfold commentLines at h
  cases comment with
  | none => exact absurd h List.not_mem_nil
  | some text =>
    dsimp only at h
    split at h
    · exact absurd h List.not_mem_nil
    · obtain ⟨piece, hpiece, rfl⟩ := List.mem_map.mp h
      constructor
      · rw [isLine_ofList]
        intro feed
        rcases List.mem_append.mp (mem_of_mem_trimEnd feed) with feed | feed
        · exact single feed
        · rcases List.mem_cons.mp feed with blank | feed
          · exact absurd blank (by decide)
          · exact absurd (of_mem_pieces hpiece _ (mem_of_mem_trimEnd feed)).1 (by decide)
      · refine ⟨.ofList (trimEnd (' ' :: trimEnd piece)), ?_⟩
        rw [← String.toList_inj, String.toList_append, String.toList_ofList, String.toList_ofList,
          commentLine, trimEnd_append solid]

/-- What is read off no line that begins with the mark is read off no line of a comment. -/
theorem filterMap_commentLines {α : Type} {f : String → Option α} (mark : String)
    (comment : Option String) (solid : trimEnd mark.toList = mark.toList) (single : IsLine mark)
    (silent : ∀ rest, f (mark ++ rest) = none) : (commentLines comment mark).filterMap f = [] := by
  rw [List.filterMap_eq_nil_iff]
  intro line h
  obtain ⟨-, rest, rfl⟩ := mem_commentLines solid single h
  exact silent rest

/-! ## Quoted text -/

theorem exists_of_mem_toDigits {b n : Nat} (base : 1 < b) {c : Char} (h : c ∈ Nat.toDigits b n) :
    ∃ d < b, c = d.digitChar := by
  induction n using Nat.strongRecOn with
  | ind n ih =>
    rw [Nat.toDigits_eq_if base] at h
    split at h
    · next small => exact ⟨n, small, List.mem_singleton.mp h⟩
    · next large =>
      have smaller : n / b < n := Nat.div_lt_self (by omega) base
      rcases List.mem_append.mp h with h | h
      · exact ih _ smaller h
      · exact ⟨n % b, Nat.mod_lt n (by omega), List.mem_singleton.mp h⟩

theorem feed_notMem_escape (c : Char) : '\n' ∉ escape c := by
  have digits : '\n' ∉ Nat.toDigits 16 c.toNat := by
    intro feed
    obtain ⟨d, small, same⟩ := exists_of_mem_toDigits (by decide) feed
    revert d
    decide
  have number : '\n' ∉ numberEscape c := by simp [numberEscape, digits]
  unfold escape
  split_ifs with zero tab feed carriage quoted slash graphic
  all_goals try decide
  · exact fun same => feed (List.mem_singleton.mp same).symm
  · exact number

theorem isLine_quote (s : String) : IsLine (quote s) := by
  have start : '\n' ∉ '"' :: s.toList.flatMap escape := by
    simp [feed_notMem_escape]
  rw [quote, isLine_ofList]
  simpa using start

/-! ## Joining and splitting -/

theorem toList_textOfLines (first : String) (rest : List String) :
    (textOfLines (first :: rest)).toList =
      (first :: rest).flatMap fun line => line.toList ++ ['\n'] := by
  have feed : "\n".toList = ['\n'] := rfl
  rw [textOfLines, String.toList_append, String.toList_intercalate, feed]
  induction rest generalizing first with
  | nil => simp
  | cons second rest ih =>
    have tail := ih second
    simp only [List.map_cons, List.intercalate_cons_cons, List.append_assoc,
      List.flatMap_cons] at tail ⊢
    rw [tail]

/-- The text of some lines is a part of the text that has more lines around them. -/
theorem exists_textOfLines_append (before : List String) {ls : List String} (filled : ls ≠ [])
    (behind : List String) :
    ∃ start rest, textOfLines (before ++ ls ++ behind) = start ++ textOfLines ls ++ rest := by
  have chars {ls : List String} (filled : ls ≠ []) :
      (textOfLines ls).toList = ls.flatMap fun line => line.toList ++ ['\n'] := by
    obtain ⟨first, rest, rfl⟩ := List.exists_cons_of_ne_nil filled
    exact toList_textOfLines first rest
  have more : before ++ ls ++ behind ≠ [] := by simp [filled]
  refine ⟨.ofList (before.flatMap fun line => line.toList ++ ['\n']),
    .ofList (behind.flatMap fun line => line.toList ++ ['\n']), ?_⟩
  rw [← String.toList_inj, String.toList_append, String.toList_append, chars filled, chars more,
    String.toList_ofList, String.toList_ofList, List.flatMap_append, List.flatMap_append]

theorem lines_textOfLines_flatMap (first : String) (rest : List String) :
    lines (textOfLines (first :: rest)) = (first :: rest).flatMap lines ++ [""] := by
  have cut : ∀ ls : List String,
      pieces (· == '\n') (ls.flatMap fun line => line.toList ++ ['\n']) =
        ls.flatMap (fun line => pieces (· == '\n') line.toList) ++ [[]] := by
    intro ls
    induction ls with
    | nil => rfl
    | cons line ls ih =>
      rw [List.flatMap_cons, List.append_assoc, List.singleton_append,
        pieces_append_cons (by rfl), ih, List.flatMap_cons, List.append_assoc]
  rw [lines, toList_textOfLines, cut, List.map_append, List.map_flatMap]
  rfl

theorem lines_textOfLines {first : String} {rest : List String}
    (single : ∀ line ∈ first :: rest, IsLine line) :
    lines (textOfLines (first :: rest)) = first :: rest ++ [""] := by
  have each : (first :: rest).flatMap lines = (first :: rest).flatMap fun line => [line] := by
    apply List.flatMap_congr
    intro line h
    exact lines_of_isLine (single line h)
  rw [lines_textOfLines_flatMap, each, List.flatMap_singleton']

/-- A text falls into the lines that it was made from exactly if each of them is one line. -/
theorem lines_textOfLines_iff {ls : List String} (filled : ls ≠ []) :
    lines (textOfLines ls) = ls ++ [""] ↔ ∀ line ∈ ls, IsLine line := by
  obtain ⟨first, rest, rfl⟩ := List.exists_cons_of_ne_nil filled
  constructor
  · intro same line h
    apply isLine_of_mem_lines (s := textOfLines (first :: rest))
    rw [same]
    exact List.mem_append_left _ h
  · exact lines_textOfLines

end Tablecast.Text
