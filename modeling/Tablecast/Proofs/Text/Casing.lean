import Tablecast.Naming
import Tablecast.Proofs.Keyed
import Tablecast.Proofs.Text.Line

/-!
# What generated names are made of

A name keeps the letters and numbers of the text it comes from, lowered, and joins its words by
underscores. Whatever else stands in that text is a separator and leaves nothing behind, so the
name of a field never breaks a line.

* `mem_lowerChar`: lowering leads to small letters,
* `flatten_casedWords`: cutting a text into words loses separators only,
* `mem_snakeCase`: the characters of a name in snake case,
* `getLast?_snakeCase`: the last of them is no underscore,
* `isLine_field`: the name of a field is one line.
-/

namespace Tablecast

namespace Text

theorem caseOffset?_eq_some {runs : List CaseRun} {n : Nat} {offset : Int}
    (h : caseOffset? runs n = some offset) :
    ∃ r ∈ runs, r.run.first ≤ n ∧ n ≤ r.run.last ∧ r.offset = offset := by
  induction runs with
  | nil => cases h
  | cons r rest ih =>
    unfold caseOffset? at h
    split at h
    · cases h
    · split at h
      · next inside =>
        simp only [CodeRun.contains, Bool.and_eq_true, decide_eq_true_eq] at inside
        exact ⟨r, List.mem_cons_self, inside.1.1, inside.1.2, Option.some_inj.mp h⟩
      · obtain ⟨r', mem, range⟩ := ih h
        exact ⟨r', List.mem_cons_of_mem r mem, range⟩

/-- The run moves to code points that are characters. -/
def CaseRun.IsValid (r : CaseRun) : Prop :=
  0 ≤ r.run.first + r.offset ∧ r.run.last + r.offset < 0xD800 ∨
    0xDFFF < r.run.first + r.offset ∧ r.run.last + r.offset < 0x110000

instance (r : CaseRun) : Decidable r.IsValid := inferInstanceAs (Decidable (_ ∨ _))

theorem CaseRun.toNat_moved {r : CaseRun} (valid : r.IsValid) {n : Nat} (low : r.run.first ≤ n)
    (high : n ≤ r.run.last) :
    ((Char.ofNat (n + r.offset).toNat).toNat : Int) = n + r.offset := by
  have code : (n + r.offset).toNat.isValidChar := by
    unfold IsValid at valid
    unfold Nat.isValidChar
    omega
  have moved : (Char.ofNat (n + r.offset).toNat).toNat = (n + r.offset).toNat := by
    rw [Char.ofNat, dif_pos code]
    rfl
  unfold IsValid at valid
  omega

/-- What a character is mapped to: itself, a character of a sequence, or one that a run moves to. -/
theorem of_mem_mapCase {sequences : List (Nat × List Nat)} {runs : List CaseRun} {c d : Char}
    (h : c ∈ mapCase sequences runs d) :
    (c = d ∧ caseOffset? runs d.toNat = none) ∨
      (∃ e ∈ sequences, ∃ code ∈ e.2, c = Char.ofNat code) ∨
      ∃ r ∈ runs, r.run.first ≤ d.toNat ∧ d.toNat ≤ r.run.last ∧
        c = Char.ofNat (d.toNat + r.offset).toNat := by
  unfold mapCase at h
  split at h
  · next codes found =>
    obtain ⟨code, inside, same⟩ := List.mem_map.mp h
    exact .inr (.inl ⟨_, mem_of_lookup found, code, inside, same.symm⟩)
  · split at h
    · next offset found =>
      obtain ⟨r, mem, low, high, rfl⟩ := caseOffset?_eq_some found
      exact .inr (.inr ⟨r, mem, low, high, List.mem_singleton.mp h⟩)
    · next unmoved => exact .inl ⟨List.mem_singleton.mp h, unmoved⟩

theorem mapCase_ne_nil {sequences : List (Nat × List Nat)} {runs : List CaseRun}
    (filled : ∀ e ∈ sequences, e.2 ≠ []) (c : Char) : mapCase sequences runs c ≠ [] := by
  unfold mapCase
  split
  · next codes found =>
    rw [Ne, List.map_eq_nil_iff]
    exact filled _ (mem_of_lookup found)
  · split <;> exact List.cons_ne_nil _ _

/-- Every run of capitals moves to code points behind the underscore. -/
theorem lowerRuns_targets : ∀ r ∈ lowerRuns, r.IsValid ∧ 0x60 < r.run.first + r.offset := by
  decide +kernel

/-- A lowered character is the character itself, or it comes behind the underscore. -/
theorem mem_lowerChar {c d : Char} (h : c ∈ lowerChar d) : c = d ∨ 0x60 < c.toNat := by
  have sequences : ∀ e ∈ lowerSequences, ∀ code ∈ e.2, 0x60 < (Char.ofNat code).toNat := by
    decide +kernel
  rcases of_mem_mapCase h with
    ⟨same, -⟩ | ⟨e, entry, code, inside, rfl⟩ | ⟨r, mem, low, high, rfl⟩
  · exact .inl same
  · exact .inr (sequences e entry code inside)
  · obtain ⟨valid, behind⟩ := lowerRuns_targets r mem
    have moved := r.toNat_moved valid low high
    right
    omega

theorem mem_lowerWord {w : List Char} {c : Char} (h : c ∈ lowerWord w) :
    ∃ d ∈ w, c = d ∨ 0x60 < c.toNat := by
  fun_induction lowerWord w with
  | case1 => exact absurd h List.not_mem_nil
  | case2 =>
    rw [List.mem_singleton.mp h]
    exact ⟨'Σ', List.mem_cons_self, .inr (by decide)⟩
  | case3 d _ => exact ⟨d, List.mem_cons_self, mem_lowerChar h⟩
  | case4 d rest more ih =>
    rcases List.mem_append.mp h with first | later
    · exact ⟨d, List.mem_cons_self, mem_lowerChar first⟩
    · obtain ⟨e, mem, known⟩ := ih later
      exact ⟨e, List.mem_cons_of_mem d mem, known⟩

/-- Cutting at humps loses nothing: the text, behind the word that was begun in front of it. -/
theorem flatten_splitHumps {mode : HumpMode} {word s : List Char} (filled : word ≠ [] → s ≠ []) :
    (splitHumps mode word s).flatten = word.reverse ++ s := by
  fun_induction splitHumps mode word s with
  | case1 mode word =>
    -- A begun word is closed at the last character of the text, so an empty text would drop it.
    by_cases begun : word = []
    · rw [begun]
      rfl
    · exact absurd rfl (filled begun)
  | case2 => simp
  | case3 mode word c next rest _ ih => simp [ih fun _ => List.cons_ne_nil _ _]
  | case4 mode word c next rest _ _ ih => simp [ih fun _ => List.cons_ne_nil _ _]
  | case5 mode word c next rest _ _ ih => simp [ih fun _ => List.cons_ne_nil _ _]

/-- The words of a text hold its letters and numbers, in order. -/
theorem flatten_casedWords (s : List Char) : (casedWords s).flatten = s.filter isAlphanumeric := by
  have humps : ((pieces (!isAlphanumeric ·) s).map (splitHumps .start [])).map List.flatten =
      pieces (!isAlphanumeric ·) s := by
    rw [List.map_map]
    apply map_eq_self
    intro piece _
    exact flatten_splitHumps fun begun => absurd rfl begun
  rw [casedWords, List.flatMap_def, List.flatten_flatten, humps, flatten_pieces]
  simp only [Bool.not_not]

theorem mem_intercalate {α : Type} {separator : List α} {ls : List (List α)} {a : α}
    (h : a ∈ separator.intercalate ls) : a ∈ separator ∨ ∃ l ∈ ls, a ∈ l := by
  induction ls with
  | nil => exact absurd h List.not_mem_nil
  | cons l rest ih =>
    cases rest with
    | nil => exact .inr ⟨l, List.mem_cons_self, by simpa using h⟩
    | cons next rest =>
      rw [List.intercalate_cons_cons, List.append_assoc, List.mem_append, List.mem_append] at h
      rcases h with first | between | later
      · exact .inr ⟨l, List.mem_cons_self, first⟩
      · exact .inl between
      · exact (ih later).imp_right fun ⟨m, mem, inside⟩ => ⟨m, List.mem_cons_of_mem l mem, inside⟩

theorem mem_intercalate_of_mem {α : Type} (separator : List α) {ls : List (List α)} {l : List α}
    {a : α} (mem : l ∈ ls) (inside : a ∈ l) : a ∈ separator.intercalate ls := by
  induction ls with
  | nil => exact absurd mem List.not_mem_nil
  | cons first rest ih =>
    cases rest with
    | nil =>
      rw [List.mem_singleton.mp mem] at inside
      rwa [List.intercalate_singleton]
    | cons next rest =>
      rw [List.intercalate_cons_cons, List.append_assoc, List.mem_append, List.mem_append]
      rcases List.mem_cons.mp mem with rfl | later
      · exact .inl inside
      · exact .inr (.inr (ih later))

theorem of_mem_of_mem_casedWords {s w : List Char} (mem : w ∈ casedWords s) :
    ∀ c ∈ w, c ∈ s ∧ isAlphanumeric c = true := by
  intro c hc
  have kept : c ∈ (casedWords s).flatten := List.mem_flatten.mpr ⟨w, mem, hc⟩
  rwa [flatten_casedWords, List.mem_filter] at kept

/-- A word is made of letters and numbers. -/
theorem isAlphanumeric_of_mem_casedWords {s w : List Char} (mem : w ∈ casedWords s) :
    ∀ c ∈ w, isAlphanumeric c = true := by
  intro c hc
  exact (of_mem_of_mem_casedWords mem c hc).2

/-- A character of a name that is no separator. -/
theorem of_mem_casedWords {s w : List Char} {c : Char} (mem : w ∈ casedWords s)
    (h : c ∈ lowerWord w) : isAlphanumeric c = true ∨ 0x60 < c.toNat := by
  obtain ⟨d, hd, known⟩ := mem_lowerWord h
  refine known.imp_left ?_
  rintro rfl
  exact isAlphanumeric_of_mem_casedWords mem c hd

/-- A name in snake case is made of underscores, letters and numbers of the text it comes from, and
letters behind the underscore. -/
theorem mem_snakeCase {s : String} {c : Char} (h : c ∈ (snakeCase s).toList) :
    c = '_' ∨ isAlphanumeric c = true ∨ 0x60 < c.toNat := by
  rw [snakeCase, String.toList_ofList] at h
  rcases mem_intercalate h with separator | ⟨word, mem, inside⟩
  · exact .inl (List.mem_singleton.mp separator)
  · obtain ⟨w, cased, rfl⟩ := List.mem_map.mp mem
    exact .inr (of_mem_casedWords cased inside)

/-! ### The end of a name -/

theorem lowerChar_ne_nil (c : Char) : lowerChar c ≠ [] := mapCase_ne_nil (by decide) c

theorem lowerWord_ne_nil {w : List Char} (h : w ≠ []) : lowerWord w ≠ [] := by
  fun_cases lowerWord w with
  | case1 => exact absurd rfl h
  | case2 => exact List.cons_ne_nil _ _
  | case3 c _ => exact lowerChar_ne_nil c
  | case4 c rest _ =>
    intro empty
    exact lowerChar_ne_nil c (List.append_eq_nil_iff.mp empty).1

/-- A word that has seen a letter is not empty, so no cut leaves an empty word behind. -/
theorem splitHumps_ne_nil {mode : HumpMode} {word s w : List Char}
    (h : w ∈ splitHumps mode word s) (seen : mode = .upper → word ≠ []) : w ≠ [] := by
  fun_induction splitHumps mode word s with
  | case1 => exact absurd h List.not_mem_nil
  | case2 mode word c =>
    rw [List.mem_singleton.mp h, Ne, List.reverse_eq_nil_iff]
    exact List.cons_ne_nil _ _
  | case3 mode word c next rest hump ih =>
    rcases List.mem_cons.mp h with rfl | later
    · rw [Ne, List.reverse_eq_nil_iff]
      exact List.cons_ne_nil _ _
    · exact ih later nofun
  | case4 mode word c next rest small hump ih =>
    rcases List.mem_cons.mp h with rfl | later
    · rw [Ne, List.reverse_eq_nil_iff]
      exact seen hump.1
    · exact ih later nofun
  | case5 mode word c next rest small hump ih => exact ih h (fun _ => List.cons_ne_nil _ _)

theorem casedWords_ne_nil {s w : List Char} (mem : w ∈ casedWords s) : w ≠ [] := by
  obtain ⟨piece, -, humps⟩ := List.mem_flatMap.mp mem
  exact splitHumps_ne_nil humps nofun

theorem getLast?_intercalate_ne {α : Type} {a : α} {ls : List (List α)}
    (h : ∀ l ∈ ls, l ≠ [] ∧ a ∉ l) : ([a].intercalate ls).getLast? ≠ some a := by
  induction ls with
  | nil => exact nofun
  | cons l rest ih =>
    obtain ⟨⟨_, clean⟩, later⟩ := List.forall_mem_cons.mp h
    cases rest with
    | nil =>
      rw [List.intercalate_singleton]
      intro last
      exact clean (List.mem_of_getLast? last)
    | cons next rest =>
      have filled : [a].intercalate (next :: rest) ≠ [] := by
        have word := (later next List.mem_cons_self).1
        cases rest with
        | nil => rwa [List.intercalate_singleton]
        | cons _ _ => simp [List.intercalate_cons_cons, word]
      obtain ⟨last, found⟩ := Option.ne_none_iff_exists'.mp (mt List.getLast?_eq_none_iff.mp filled)
      have other : some last ≠ some a := by
        rw [← found]
        exact ih later
      rw [List.intercalate_cons_cons, List.getLast?_append, found, Option.some_or]
      exact other

/-- An underscore stands between words, never behind the last one. -/
theorem getLast?_snakeCase (s : String) : (snakeCase s).toList.getLast? ≠ some '_' := by
  rw [snakeCase, String.toList_ofList]
  apply getLast?_intercalate_ne
  intro word mem
  obtain ⟨w, cased, rfl⟩ := List.mem_map.mp mem
  refine ⟨lowerWord_ne_nil (casedWords_ne_nil cased), ?_⟩
  intro underscore
  have known := of_mem_casedWords cased underscore
  revert known
  decide

end Text

theorem isLine_field (fieldName : String) : Text.IsLine (Naming.field fieldName) := by
  intro feed
  have known := Text.mem_snakeCase feed
  revert known
  decide

end Tablecast
