import Tablecast.Artifact.Identifier
import Tablecast.Proofs.Text.Lowering

/-!
# Names in snake case

A name in snake case is words of small letters and digits, joined by single underscores. Naming a
field by an ASCII text leads to such a name, with the letters and digits of the text in it and
nothing else. Such a name falls into its words again, none of which has a hump, so naming a field by
it changes nothing: whoever reads the name off a message and spells it once more finds the same
field.

* `isSnakeName_snakeCase`, `letters_snakeCase`: the name of an ASCII text, and what it keeps of it;
* `IsSnakeName.snakeCase_eq_self`: a name in snake case is left as it is;
* `field_settled`: the names of a field, made once and made twice.
-/

namespace Tablecast

namespace Text

/-! ## Letters of names -/

/-- The text is written in ASCII. -/
def IsAscii (s : List Char) : Prop := ∀ c ∈ s, c.toNat < 0x80

instance (s : List Char) : Decidable (IsAscii s) := List.decidableBAll _ _

/-- A small letter of ASCII, or a digit. -/
def IsNameLetter (c : Char) : Prop := 'a' ≤ c ∧ c ≤ 'z' ∨ '0' ≤ c ∧ c ≤ '9'

instance (c : Char) : Decidable (IsNameLetter c) := inferInstanceAs (Decidable (_ ∨ _))

/-- Among the characters of ASCII, letters and numbers are those of the basic classes. -/
theorem isAlphanumeric_ascii {c : Char} (ascii : c.toNat < 0x80) :
    isAlphanumeric c = c.isAlphanum := by
  have table : ∀ n < 0x80, isAlphanumeric (.ofNat n) = (Char.ofNat n).isAlphanum := by
    decide +kernel
  exact forall_ascii table c ascii

theorem isNameLetter_toLower {c : Char} (ascii : c.toNat < 0x80)
    (letter : isAlphanumeric c = true) : IsNameLetter c.toLower := by
  have table : ∀ n < 0x80, isAlphanumeric (.ofNat n) = true →
      IsNameLetter (Char.ofNat n).toLower := by
    decide +kernel
  exact forall_ascii table c ascii letter

theorem IsNameLetter.ascii {c : Char} (h : IsNameLetter c) : c.toNat < 0x80 := by
  rcases h with ⟨-, small⟩ | ⟨-, digit⟩
  · have last : c.toNat ≤ 122 := UInt32.le_iff_toNat_le.mp small
    omega
  · have last : c.toNat ≤ 57 := UInt32.le_iff_toNat_le.mp digit
    omega

/-- Neither cutting nor lowering finds anything to do at a letter of a name. -/
theorem IsNameLetter.kept {c : Char} (h : IsNameLetter c) :
    isAlphanumeric c = true ∧ isUppercase c = false ∧ c.toLower = c := by
  have table : ∀ n < 0x80, IsNameLetter (.ofNat n) → isAlphanumeric (.ofNat n) = true ∧
      isUppercase (.ofNat n) = false ∧ (Char.ofNat n).toLower = .ofNat n := by
    decide +kernel
  exact forall_ascii table c h.ascii h

theorem lowerWord_ascii {w : List Char} (ascii : IsAscii w) : lowerWord w = w.map Char.toLower := by
  fun_induction lowerWord w with
  | case1 => rfl
  | case2 =>
    have sigma := ascii 'Σ' List.mem_cons_self
    exact absurd sigma (by decide)
  | case3 c _ => exact lowerChar_ascii (ascii c List.mem_cons_self)
  | case4 c rest _ ih =>
    obtain ⟨first, later⟩ := List.forall_mem_cons.mp ascii
    rw [lowerChar_ascii first, ih later, List.singleton_append, List.map_cons]

/-! ## Names -/

theorem filter_intercalate {a : Char} {ls : List (List Char)} (clean : ∀ l ∈ ls, a ∉ l) :
    ([a].intercalate ls).filter (· ≠ a) = ls.flatten := by
  induction ls with
  | nil => rfl
  | cons l rest ih =>
    obtain ⟨first, later⟩ := List.forall_mem_cons.mp clean
    have whole : l.filter (· ≠ a) = l := by
      apply List.filter_eq_self.mpr
      intro c hc
      exact decide_eq_true fun same => first (same ▸ hc)
    cases rest with
    | nil => simpa using whole
    | cons next rest =>
      rw [List.intercalate_cons_cons, List.filter_append, List.filter_append, ih later, whole]
      simp

/-- The words of a name in snake case. -/
def IsNameWord (w : List Char) : Prop := w ≠ [] ∧ ∀ c ∈ w, IsNameLetter c

/-- Words of small letters and digits, joined by single underscores. No underscore stands at either
end, and the name of no words is empty. -/
def IsSnakeName (s : String) : Prop :=
  ∃ words : List (List Char), (∀ w ∈ words, IsNameWord w) ∧ s.toList = ['_'].intercalate words

theorem IsAscii.casedWord {s w : List Char} (ascii : IsAscii s) (mem : w ∈ casedWords s) :
    IsAscii w := by
  intro c hc
  exact ascii c (of_mem_of_mem_casedWords mem c hc).1

theorem isNameWord_lowerWord {s w : List Char} (ascii : IsAscii s) (mem : w ∈ casedWords s) :
    IsNameWord (lowerWord w) := by
  have within : IsAscii w := ascii.casedWord mem
  refine ⟨lowerWord_ne_nil (casedWords_ne_nil mem), ?_⟩
  intro c hc
  rw [lowerWord_ascii within] at hc
  obtain ⟨d, hd, rfl⟩ := List.mem_map.mp hc
  exact isNameLetter_toLower (within d hd) (isAlphanumeric_of_mem_casedWords mem d hd)

theorem isSnakeName_snakeCase {s : String} (ascii : IsAscii s.toList) :
    IsSnakeName (snakeCase s) := by
  refine ⟨(casedWords s.toList).map lowerWord, ?_, String.toList_ofList⟩
  intro w mem
  obtain ⟨cased, cut, rfl⟩ := List.mem_map.mp mem
  exact isNameWord_lowerWord ascii cut

/-- Without its underscores a name is the letters and digits of its text, lowered. -/
theorem letters_snakeCase {s : String} (ascii : IsAscii s.toList) :
    (snakeCase s).toList.filter (· ≠ '_') = (s.toList.filter Char.isAlphanum).map Char.toLower := by
  have lowered : (casedWords s.toList).map lowerWord =
      (casedWords s.toList).map (·.map Char.toLower) := by
    apply List.map_congr_left
    intro w mem
    exact lowerWord_ascii (ascii.casedWord mem)
  have clean : ∀ w ∈ (casedWords s.toList).map lowerWord, '_' ∉ w := by
    intro w mem underscore
    obtain ⟨cased, cut, rfl⟩ := List.mem_map.mp mem
    have letter := (isNameWord_lowerWord ascii cut).2 '_' underscore
    exact absurd letter (by decide)
  have letters : s.toList.filter isAlphanumeric = s.toList.filter Char.isAlphanum :=
    List.filter_congr fun c hc => isAlphanumeric_ascii (ascii c hc)
  rw [snakeCase, String.toList_ofList, filter_intercalate clean, lowered, ← List.map_flatten,
    flatten_casedWords, letters]

/-! ## Cutting a name again -/

/-- Humps are at capitals, so a text without them is one word with what stands in front of it. -/
theorem splitHumps_small {mode : HumpMode} {word s : List Char} (filled : s ≠ [])
    (small : ∀ c ∈ s, isUppercase c = false) : splitHumps mode word s = [word.reverse ++ s] := by
  fun_induction splitHumps mode word s with
  | case1 => exact absurd rfl filled
  | case2 => simp
  | case3 mode word c next rest hump ih =>
    have noCapital := small next (by simp)
    rw [noCapital] at hump
    exact absurd hump.2 (by decide)
  | case4 mode word c next rest _ hump ih =>
    have noCapital := small c (by simp)
    rw [noCapital] at hump
    exact absurd hump.2.1 (by decide)
  | case5 mode word c next rest _ _ ih =>
    rw [ih (List.cons_ne_nil _ _) (List.forall_mem_cons.mp small).2]
    simp

theorem IsNameWord.casedWords_eq {w : List Char} (h : IsNameWord w) : casedWords w = [w] := by
  obtain ⟨filled, letters⟩ := h
  have whole : pieces (!isAlphanumeric ·) w = [w] := by
    apply pieces_eq_singleton
    intro c hc
    rw [(letters c hc).kept.1, Bool.not_true]
  have small : ∀ c ∈ w, isUppercase c = false := fun c hc => (letters c hc).kept.2.1
  rw [casedWords, whole, List.flatMap_singleton, splitHumps_small filled small]
  rfl

theorem IsNameWord.lowerWord_eq {w : List Char} (h : IsNameWord w) : lowerWord w = w := by
  rw [lowerWord_ascii fun c hc => (h.2 c hc).ascii]
  apply map_eq_self
  intro c hc
  exact (h.2 c hc).kept.2.2

theorem casedWords_append_cons {s rest : List Char} {c : Char}
    (separates : isAlphanumeric c = false) :
    casedWords (s ++ c :: rest) = casedWords s ++ casedWords rest := by
  have cut : pieces (!isAlphanumeric ·) (s ++ c :: rest) =
      pieces (!isAlphanumeric ·) s ++ pieces (!isAlphanumeric ·) rest :=
    pieces_append_cons (by rw [separates, Bool.not_false])
  rw [casedWords, cut, List.flatMap_append, casedWords, casedWords]

theorem casedWords_intercalate {words : List (List Char)} (named : ∀ w ∈ words, IsNameWord w) :
    casedWords (['_'].intercalate words) = words := by
  induction words with
  | nil => rfl
  | cons w rest ih =>
    obtain ⟨first, later⟩ := List.forall_mem_cons.mp named
    cases rest with
    | nil => rw [List.intercalate_singleton, first.casedWords_eq]
    | cons next rest =>
      rw [List.intercalate_cons_cons, List.append_assoc, List.singleton_append,
        casedWords_append_cons (by decide), first.casedWords_eq, ih later, List.singleton_append]

theorem IsSnakeName.snakeCase_eq_self {s : String} (h : IsSnakeName s) : snakeCase s = s := by
  obtain ⟨words, named, joined⟩ := h
  have lowered : words.map lowerWord = words := map_eq_self fun w mem => (named w mem).lowerWord_eq
  rw [snakeCase, joined, casedWords_intercalate named, lowered, ← joined, String.ofList_toList]

end Text

open Artifact Text

/-- **A name is made once.** The name of a field with an ASCII text is words of small letters and
digits joined by single underscores, which hold the letters and digits of the text, lowered and in
order. Making a name of it again changes nothing, so the identifier that is made from the name alone
is the one of the field. -/
theorem field_settled {fieldName : String} (ascii : IsAscii fieldName.toList) :
    IsSnakeName (Naming.field fieldName) ∧
      (Naming.field fieldName).toList.filter (· ≠ '_') =
        (fieldName.toList.filter Char.isAlphanum).map Char.toLower ∧
      Naming.field (Naming.field fieldName) = Naming.field fieldName ∧
      fieldIdent (Naming.field fieldName) = fieldIdent fieldName := by
  have named : IsSnakeName (Naming.field fieldName) := isSnakeName_snakeCase ascii
  have again : Naming.field (Naming.field fieldName) = Naming.field fieldName :=
    named.snakeCase_eq_self
  have escaped : fieldIdent (Naming.field fieldName) = fieldIdent fieldName := by
    rw [fieldIdent, fieldIdent, again]
  exact ⟨named, letters_snakeCase ascii, again, escaped⟩

/-- Runs of capitals, digits inside words, and separators that stand together and at both ends. -/
theorem acronymField_settled :
    IsAscii "_HTTPServer--v2ID_".toList ∧
      Naming.field "_HTTPServer--v2ID_" = "http_server_v2_id" ∧
      IsSnakeName "http_server_v2_id" ∧
      Naming.field "http_server_v2_id" = "http_server_v2_id" ∧
      fieldIdent "http_server_v2_id" = fieldIdent "_HTTPServer--v2ID_" := by
  have ascii : IsAscii "_HTTPServer--v2ID_".toList := by decide +kernel
  have name : Naming.field "_HTTPServer--v2ID_" = "http_server_v2_id" := by decide +kernel
  have settled := field_settled ascii
  rw [name] at settled
  exact ⟨ascii, name, settled.1, settled.2.2.1, settled.2.2.2⟩

end Tablecast
