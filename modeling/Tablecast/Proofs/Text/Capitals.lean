import Tablecast.Proofs.Text.Casing

/-!
# Capital names, and names of separators only

A constant is named in capitals, so it never has the name of anything that is written with a small
letter. In capitals as in small letters, nothing is left of a text that has neither letters nor
numbers, and any other text leaves a name behind that is more than blanks.

* `mem_upperSnakeCase`: the characters of a name in capitals,
* `casedWords_eq_nil_iff`: the texts that have no words,
* `isVacant_snakeCase_iff`, `isVacant_upperSnakeCase_iff`: which names are there.
-/

namespace Tablecast.Text

/-! ## Characters in capitals -/

/-- The code point is no small letter of ASCII. -/
def IsNoSmallLetter (n : Int) : Prop := n < 0x61 ∨ 0x7A < n

instance (n : Int) : Decidable (IsNoSmallLetter n) := inferInstanceAs (Decidable (_ ∨ _))

/-- No run of small letters moves to small letters of ASCII, or in front of the capitals. -/
theorem upperRuns_targets : ∀ r ∈ upperRuns, r.IsValid ∧ 0x40 < r.run.first + r.offset ∧
    (r.run.last + r.offset < 0x61 ∨ 0x7A < r.run.first + r.offset) := by
  decide +kernel

/-- A character that is kept is no small letter of ASCII, as the first run moves all of them. -/
theorem isNoSmallLetter_of_unmoved {n : Nat} (unmoved : caseOffset? upperRuns n = none) :
    IsNoSmallLetter n := by
  have letters : ∀ n < 0x7B, 0x60 < n → (caseOffset? upperRuns n).isSome := by decide +kernel
  unfold IsNoSmallLetter
  by_contra small
  have moved := letters n (by omega) (by omega)
  rw [unmoved] at moved
  cases moved

theorem mem_upperChar {c d : Char} (h : c ∈ upperChar d) :
    (c = d ∨ 0x40 < c.toNat) ∧ IsNoSmallLetter c.toNat := by
  have sequences : ∀ e ∈ upperSequences, ∀ code ∈ e.2,
      0x40 < (Char.ofNat code).toNat ∧ IsNoSmallLetter (Char.ofNat code).toNat := by
    decide +kernel
  rcases of_mem_mapCase h with
    ⟨rfl, unmoved⟩ | ⟨e, entry, code, inside, rfl⟩ | ⟨r, mem, low, high, rfl⟩
  · exact ⟨.inl rfl, isNoSmallLetter_of_unmoved unmoved⟩
  · obtain ⟨behind, capital⟩ := sequences e entry code inside
    exact ⟨.inr behind, capital⟩
  · obtain ⟨valid, behind, apart⟩ := upperRuns_targets r mem
    have moved := r.toNat_moved valid low high
    refine ⟨.inr (by omega), ?_⟩
    unfold IsNoSmallLetter
    omega

theorem mem_upperWord {w : List Char} {c : Char} (h : c ∈ upperWord w) :
    ∃ d ∈ w, (c = d ∨ 0x40 < c.toNat) ∧ IsNoSmallLetter c.toNat := by
  obtain ⟨d, mem, inside⟩ := List.mem_flatMap.mp h
  exact ⟨d, mem, mem_upperChar inside⟩

/-- A name in capitals is made of letters and numbers of the text it comes from and of characters
behind the digits, and no small letter of ASCII is among them. -/
theorem mem_upperSnakeCase {s : String} {c : Char} (h : c ∈ (upperSnakeCase s).toList) :
    (isAlphanumeric c = true ∨ 0x40 < c.toNat) ∧ IsNoSmallLetter c.toNat := by
  rw [upperSnakeCase, String.toList_ofList] at h
  rcases mem_intercalate h with separator | ⟨word, mem, inside⟩
  · rw [List.mem_singleton.mp separator]
    decide
  · obtain ⟨w, cased, rfl⟩ := List.mem_map.mp mem
    obtain ⟨d, hd, known, capital⟩ := mem_upperWord inside
    refine ⟨known.imp_left ?_, capital⟩
    rintro rfl
    exact isAlphanumeric_of_mem_casedWords cased c hd

/-! ## Texts without words -/

/-- A text has no words exactly if it has neither letters nor numbers. -/
theorem casedWords_eq_nil_iff {s : List Char} :
    casedWords s = [] ↔ ∀ c ∈ s, isAlphanumeric c = false := by
  have letters : (casedWords s).flatten = [] ↔ ∀ c ∈ s, isAlphanumeric c = false := by
    rw [flatten_casedWords, List.filter_eq_nil_iff]
    simp only [Bool.not_eq_true]
  rw [← letters, List.flatten_eq_nil_iff]
  constructor
  · intro none w mem
    rw [none] at mem
    exact absurd mem List.not_mem_nil
  · intro empty
    rw [List.eq_nil_iff_forall_not_mem]
    intro w mem
    exact casedWords_ne_nil mem (empty w mem)

theorem CodeRanges.exists_of_contains {ranges : CodeRanges} {n : Nat}
    (h : ranges.contains n = true) : ∃ r ∈ ranges, r.1 ≤ n ∧ n ≤ r.2 := by
  induction ranges with
  | nil => cases h
  | cons r rest ih =>
    simp only [contains, Bool.and_eq_true, Bool.or_eq_true, decide_eq_true_eq] at h
    obtain ⟨low, high | later⟩ := h
    · exact ⟨r, List.mem_cons_self, low, high⟩
    · obtain ⟨r', mem, range⟩ := ih later
      exact ⟨r', List.mem_cons_of_mem r mem, range⟩

/-- A code point is no blank if it lies in an interval that has none. -/
theorem isBlank_eq_false {c : Char} {low high : Int} (first : low ≤ c.toNat)
    (last : c.toNat ≤ high) (apart : ∀ b ∈ blankRanges, high < b.1 ∨ b.2 < low) :
    isBlank c = false := by
  rw [Bool.eq_false_iff]
  intro blank
  obtain ⟨b, mem, start, stop⟩ := CodeRanges.exists_of_contains blank
  have outside := apart b mem
  omega

theorem isBlank_of_isAlphanumeric {c : Char} (h : isAlphanumeric c = true) :
    isBlank c = false := by
  have apart : ∀ r ∈ alphanumericRanges, ∀ b ∈ blankRanges, r.2 < b.1 ∨ b.2 < r.1 := by
    decide +kernel
  obtain ⟨r, mem, low, high⟩ := CodeRanges.exists_of_contains h
  apply isBlank_eq_false (Int.ofNat_le.mpr low) (Int.ofNat_le.mpr high)
  intro b hb
  have outside := apart r mem b hb
  omega

/-- No character of a table is a blank, neither in a sequence nor where a run moves to. -/
def NeverBlank (sequences : List (Nat × List Nat)) (runs : List CaseRun) : Prop :=
  (∀ e ∈ sequences, ∀ code ∈ e.2, isBlank (Char.ofNat code) = false) ∧
    ∀ r ∈ runs, r.IsValid ∧
      ∀ b ∈ blankRanges, r.run.last + r.offset < b.1 ∨ b.2 < r.run.first + r.offset

instance (sequences : List (Nat × List Nat)) (runs : List CaseRun) :
    Decidable (NeverBlank sequences runs) := inferInstanceAs (Decidable (_ ∧ _))

theorem isBlank_of_mem_mapCase {sequences : List (Nat × List Nat)} {runs : List CaseRun}
    {c d : Char} (solid : NeverBlank sequences runs) (letter : isAlphanumeric d = true)
    (h : c ∈ mapCase sequences runs d) : isBlank c = false := by
  rcases of_mem_mapCase h with
    ⟨rfl, -⟩ | ⟨e, entry, code, inside, rfl⟩ | ⟨r, mem, low, high, rfl⟩
  · exact isBlank_of_isAlphanumeric letter
  · exact solid.1 e entry code inside
  · obtain ⟨valid, apart⟩ := solid.2 r mem
    have moved := r.toNat_moved valid low high
    exact isBlank_eq_false (by omega) (by omega) apart

/-! ## Names that are there -/

section Joined

variable {s : String} {f : List Char → List Char}

theorem joined_eq_empty_iff (filled : ∀ w ∈ casedWords s.toList, f w ≠ []) :
    String.ofList (['_'].intercalate ((casedWords s.toList).map f)) = "" ↔
      casedWords s.toList = [] := by
  rw [← String.toList_inj, String.toList_ofList]
  constructor
  · intro empty
    rw [List.eq_nil_iff_forall_not_mem]
    intro w mem
    obtain ⟨c, inside⟩ := List.exists_mem_of_ne_nil _ (filled w mem)
    have joined := mem_intercalate_of_mem ['_'] (List.mem_map_of_mem mem) inside
    rw [empty] at joined
    exact absurd joined List.not_mem_nil
  · intro none
    rw [none]
    rfl

/-- A name that is joined from solid words is vacant only if it is empty. -/
theorem isVacant_joined_iff
    (solid : ∀ w ∈ casedWords s.toList, f w ≠ [] ∧ ∀ c ∈ f w, isBlank c = false) :
    isVacant (.ofList (['_'].intercalate ((casedWords s.toList).map f))) = true ↔
      String.ofList (['_'].intercalate ((casedWords s.toList).map f)) = "" := by
  rw [joined_eq_empty_iff fun w mem => (solid w mem).1, isVacant, List.all_eq_true,
    String.toList_ofList]
  constructor
  · intro vacant
    rw [List.eq_nil_iff_forall_not_mem]
    intro w mem
    obtain ⟨filled, seen⟩ := solid w mem
    obtain ⟨c, inside⟩ := List.exists_mem_of_ne_nil _ filled
    have blank := vacant c (mem_intercalate_of_mem ['_'] (List.mem_map_of_mem mem) inside)
    rw [seen c inside] at blank
    cases blank
  · intro none
    rw [none]
    exact fun c hc => absurd hc List.not_mem_nil

end Joined

theorem isBlank_of_mem_lowerWord {w : List Char} {c : Char}
    (letters : ∀ d ∈ w, isAlphanumeric d = true) (h : c ∈ lowerWord w) : isBlank c = false := by
  have solid : NeverBlank lowerSequences lowerRuns := by decide +kernel
  fun_induction lowerWord w with
  | case1 => exact absurd h List.not_mem_nil
  | case2 =>
    rw [List.mem_singleton.mp h]
    decide
  | case3 d _ => exact isBlank_of_mem_mapCase solid (letters d List.mem_cons_self) h
  | case4 d rest more ih =>
    obtain ⟨letter, others⟩ := List.forall_mem_cons.mp letters
    rcases List.mem_append.mp h with first | later
    · exact isBlank_of_mem_mapCase solid letter first
    · exact ih others later

theorem isBlank_of_mem_upperWord {w : List Char} {c : Char}
    (letters : ∀ d ∈ w, isAlphanumeric d = true) (h : c ∈ upperWord w) : isBlank c = false := by
  have solid : NeverBlank upperSequences upperRuns := by decide +kernel
  obtain ⟨d, mem, inside⟩ := List.mem_flatMap.mp h
  exact isBlank_of_mem_mapCase solid (letters d mem) inside

theorem upperWord_ne_nil {w : List Char} (h : w ≠ []) : upperWord w ≠ [] := by
  obtain ⟨c, mem⟩ := List.exists_mem_of_ne_nil w h
  intro empty
  exact mapCase_ne_nil (by decide) c (List.flatMap_eq_nil_iff.mp empty c mem)

/-- A name in snake case is empty exactly if the text has neither letters nor numbers. -/
theorem snakeCase_eq_empty_iff (s : String) :
    snakeCase s = "" ↔ ∀ c ∈ s.toList, isAlphanumeric c = false := by
  rw [snakeCase, joined_eq_empty_iff fun w mem => lowerWord_ne_nil (casedWords_ne_nil mem),
    casedWords_eq_nil_iff]

theorem isVacant_snakeCase_iff (s : String) : isVacant (snakeCase s) = true ↔ snakeCase s = "" :=
  isVacant_joined_iff fun _ mem => ⟨lowerWord_ne_nil (casedWords_ne_nil mem),
    fun _ => isBlank_of_mem_lowerWord (isAlphanumeric_of_mem_casedWords mem)⟩

theorem upperSnakeCase_eq_empty_iff (s : String) :
    upperSnakeCase s = "" ↔ ∀ c ∈ s.toList, isAlphanumeric c = false := by
  rw [upperSnakeCase, joined_eq_empty_iff fun w mem => upperWord_ne_nil (casedWords_ne_nil mem),
    casedWords_eq_nil_iff]

theorem isVacant_upperSnakeCase_iff (s : String) :
    isVacant (upperSnakeCase s) = true ↔ upperSnakeCase s = "" :=
  isVacant_joined_iff fun _ mem => ⟨upperWord_ne_nil (casedWords_ne_nil mem),
    fun _ => isBlank_of_mem_upperWord (isAlphanumeric_of_mem_casedWords mem)⟩

end Tablecast.Text
