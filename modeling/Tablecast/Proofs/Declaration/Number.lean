import Tablecast.Proofs.Declaration.Numeral

/-!
# Numeric declarations

`NUMBER(p)` and `NUMBER(p,s)`, in any letter case and with blanks around their parts, declare
numbers of precision `p` and scale `s`. The precision is judged exactly, as one that does not fit
its word is larger than any that matters. A scale that does not fit is passed over, so that a large
positive one counts as none.

- `normalize_spaced`: the parts of a declaration outlast its normalization,
- `argumentList?_spaced`, `parts_pair`: the texts that are taken for the arguments,
- `semantic?_spelled`: the family that a numeric declaration stands for,
- `numbers_classified_iff`: when that is the family of its precision and scale.
-/

namespace Tablecast

/-- The narrowest family of integers of so many digits. -/
def Semantic.ofPrecision (p : Nat) : Semantic :=
  if p ≤ 4 then .shortInt else if p ≤ 9 then .int else if p ≤ 18 then .longInt else .decimal

theorem Semantic.ofPrecision_eq_decimal {p : Nat} :
    Semantic.ofPrecision p = .decimal ↔ 18 < p := by
  unfold ofPrecision
  split
  · simp; omega
  split
  · simp; omega
  split
  · simp; omega
  · simp; omega

namespace Declaration

open Text

/-- The declaration spells `NUMBER(p)`, or `NUMBER(p,s)`, in any letter case and with any blanks
before, between and behind its parts. -/
inductive SpellsNumber (text : String) (p : Nat) : Option Int → Prop
  | lone {name precision : List Char} (letters : name.map Char.toLower = "number".toList)
      (numeral : Numeral precision p)
      (spaced : Spaced [name, ['('], precision, [')']] text.toList) : SpellsNumber text p none
  | scaled {name precision scale : List Char} {s : Int}
      (letters : name.map Char.toLower = "number".toList) (numeral : Numeral precision p)
      (signed : SignedNumeral scale s)
      (spaced : Spaced [name, ['('], precision, [','], scale, [')']] text.toList) :
      SpellsNumber text p (some s)

/-! ## Normal declarations -/

theorem toLower_eq_self {c : Char} (h : c.toNat < 65 ∨ 90 < c.toNat) : c.toLower = c := by
  have small : ¬ (c.val ≥ 'A'.val ∧ c.val ≤ 'Z'.val) := by
    intro capital
    have low : 65 ≤ c.toNat := UInt32.le_iff_toNat_le.mp capital.1
    have high : c.toNat ≤ 90 := UInt32.le_iff_toNat_le.mp capital.2
    omega
  exact dif_neg small

theorem toLower_of_isNumeral {c : Char} (h : isNumeral c = true) : c.toLower = c := by
  have range := toNat_of_isNumeral h
  exact toLower_eq_self (by omega)

theorem toLower_of_isBlank {c : Char} (h : isBlank c = true) : c.toLower = c := by
  apply toLower_eq_self
  simp only [isBlank, blankRanges, CodeRanges.contains] at h
  grind

/-- Tokens that hold no capitals are the same after letters are lowered. -/
theorem spaced_map_toLower {ts : List (List Char)} {s : List Char} (h : Spaced ts s)
    (small : ∀ t ∈ ts, ∀ c ∈ t, c.toLower = c) : s.map Char.toLower = s := by
  have same {b : List Char} (gap : IsGap b) : b.map Char.toLower = b :=
    map_eq_self fun c m => toLower_of_isBlank (gap c m)
  induction h with
  | nil gap => exact same gap
  | cons gap _ ih =>
    obtain ⟨first, others⟩ := List.forall_mem_cons.mp small
    rw [List.map_append, List.map_append, same gap, map_eq_self first, ih others]

/-- The name, however its letters are written, is one token. -/
theorem isToken_of_letters {name : List Char} (letters : name.map Char.toLower = "number".toList) :
    IsToken name where
  nonempty := by
    rintro rfl
    cases letters
  solid := by
    intro c hc
    by_contra blank
    rw [Bool.not_eq_false] at blank
    have lowered : c ∈ "number".toList := by
      rw [← letters, ← toLower_of_isBlank blank]
      exact List.mem_map_of_mem hc
    have letters' : "number".toList.any isBlank = false := by decide
    exact List.any_eq_false.mp letters' c lowered blank

/-- What stands behind the name of a numeric declaration stays there when it is normalized. -/
theorem normalize_spaced {name text : List Char} {ts : List (List Char)}
    (letters : name.map Char.toLower = "number".toList) (tokens : ∀ t ∈ ts, IsToken t)
    (small : ∀ t ∈ ts, ∀ c ∈ t, c.toLower = c) (spaced : Spaced (name :: ts) text) :
    ∃ rest, normalize text = "number".toList ++ rest ∧ Spaced ts rest := by
  obtain ⟨rest, squeezed, spaced⟩ :=
    spaced.squeeze (List.forall_mem_cons.mpr ⟨isToken_of_letters letters, tokens⟩)
  refine ⟨rest, ?_, spaced⟩
  change (squeeze text).map Char.toLower = _
  rw [squeezed, List.map_append, letters, spaced_map_toLower spaced small]

theorem family?_number (rest : List Char) : family? ("number".toList ++ rest) = some .numeric := by
  have first : "number".toList.isPrefixOf ("number".toList ++ rest) = true :=
    List.isPrefixOf_iff_prefix.mpr (List.prefix_append _ _)
  rw [family?, families, List.find?_cons, first]
  rfl

/-! ## Arguments -/

theorem notMem_of_isNumeral {t : List Char} {c : Char} (numeral : ∀ d ∈ t, isNumeral d = true)
    (other : isNumeral c = false) : c ∉ t := by
  intro inside
  rw [numeral c inside] at other
  cases other

theorem argumentList?_parenthesized {head inner rest : List Char} (opens : '(' ∉ head)
    (closes : ')' ∉ inner) :
    argumentList? (head ++ '(' :: (inner ++ ')' :: rest)) = some inner := by
  have before {c : Char} {t : List Char} (h : c ∉ t) : ∀ d ∈ t, decide (d ≠ c) = true := by
    intro d m
    exact decide_eq_true fun same => h (same ▸ m)
  have opened : (head ++ '(' :: (inner ++ ')' :: rest)).dropWhile (· ≠ '(') =
      '(' :: (inner ++ ')' :: rest) :=
    dropWhile_append_mark (before opens) (by decide) _
  have closed : (inner ++ ')' :: rest).takeWhile (· ≠ ')') = inner :=
    takeWhile_append_mark (before closes) (by decide) _
  rw [argumentList?, opened]
  simp only [closed]
  exact if_pos (List.mem_append_right _ List.mem_cons_self)

/-- Between the parentheses stand the arguments. -/
theorem argumentList?_spaced {head rest : List Char} {ts : List (List Char)} (opens : '(' ∉ head)
    (closes : ∀ t ∈ ts, ')' ∉ t) (spaced : Spaced (['('] :: (ts ++ [[')']])) rest) :
    ∃ inner, argumentList? (head ++ rest) = some inner ∧ Spaced ts inner := by
  obtain ⟨before, opened, rfl, gap, closed⟩ :=
    Spaced.split (show Spaced ([] ++ ['('] :: (ts ++ [[')']])) rest from spaced)
  obtain ⟨inner, behind, rfl, arguments, -⟩ := closed.split
  have opens' : '(' ∉ head ++ before := by
    intro inside
    exact (List.mem_append.mp inside).elim opens (gap.notMem rfl nofun)
  have list : argumentList? (head ++ before ++ '(' :: (inner ++ ')' :: behind)) = some inner :=
    argumentList?_parenthesized opens' (arguments.notMem rfl closes)
  refine ⟨inner, ?_, arguments⟩
  simpa using list

/-- A declaration of numerals and commas keeps them when it is normalized, between its parentheses
and behind its name. -/
theorem normalize_declared {name text : List Char} {ts : List (List Char)}
    (letters : name.map Char.toLower = "number".toList) (tokens : ∀ t ∈ ts, IsToken t)
    (plain : ∀ t ∈ ts, ∀ c ∈ t, isNumeral c = true ∨ c = ',')
    (spaced : Spaced (name :: ['('] :: (ts ++ [[')']])) text) :
    ∃ rest inner, normalize text = "number".toList ++ rest ∧
      argumentList? (normalize text) = some inner ∧ Spaced ts inner := by
  have around : ∀ t ∈ ['('] :: (ts ++ [[')']]), t = ['('] ∨ t ∈ ts ∨ t = [')'] := by simp
  have tokens' : ∀ t ∈ ['('] :: (ts ++ [[')']]), IsToken t := by
    intro t ht
    rcases around t ht with rfl | inside | rfl
    · exact isToken_singleton rfl
    · exact tokens t inside
    · exact isToken_singleton rfl
  have small : ∀ t ∈ ['('] :: (ts ++ [[')']]), ∀ c ∈ t, c.toLower = c := by
    intro t ht c hc
    rcases around t ht with rfl | inside | rfl
    · rw [List.mem_singleton.mp hc]; rfl
    · rcases plain t inside c hc with numeral | rfl
      · exact toLower_of_isNumeral numeral
      · rfl
    · rw [List.mem_singleton.mp hc]; rfl
  have closes : ∀ t ∈ ts, ')' ∉ t := by
    intro t ht hc
    rcases plain t ht ')' hc with numeral | comma
    · cases numeral
    · cases comma
  have opens : '(' ∉ "number".toList := by decide
  obtain ⟨rest, normal, behind⟩ := normalize_spaced letters tokens' small spaced
  obtain ⟨inner, list, arguments⟩ := argumentList?_spaced opens closes behind
  exact ⟨rest, inner, normal, normal ▸ list, arguments⟩

/-- One numeral is one part. -/
theorem parts_lone {t inner : List Char} (numeral : ∀ c ∈ t, isNumeral c = true)
    (token : IsToken t) (spaced : Spaced [t] inner) :
    (pieces (· == ',') inner).map trim = [t] := by
  have commaless : ',' ∉ inner :=
    spaced.notMem rfl (List.forall_mem_singleton.mpr (notMem_of_isNumeral numeral rfl))
  have single : pieces (· == ',') inner = [inner] := by
    apply pieces_eq_singleton
    intro c hc
    rw [beq_eq_false_iff_ne]
    rintro rfl
    exact commaless hc
  rw [single, List.map_singleton, spaced.trim token]

/-- Two numerals with a comma between them are two parts. -/
theorem parts_pair {t u inner : List Char} (numeral : ∀ c ∈ t, isNumeral c = true)
    (token : IsToken t) (numeral' : ∀ c ∈ u, isNumeral c = true) (token' : IsToken u)
    (spaced : Spaced [t, [','], u] inner) : (pieces (· == ',') inner).map trim = [t, u] := by
  obtain ⟨first, second, rfl, spaced, spaced'⟩ :=
    Spaced.split (show Spaced ([t] ++ [','] :: [u]) inner from spaced)
  rw [List.append_assoc, List.singleton_append, pieces_append_cons rfl, List.map_append,
    parts_lone numeral token spaced, parts_lone numeral' token' spaced']
  rfl

/-- A numeric declaration begins with its name, and what is read of it are its precision and its
scale as far as they fit. -/
theorem arguments?_spelled {text : String} {p : Nat} {scale : Option Int}
    (h : SpellsNumber text p scale) :
    ∃ rest, normalize text.toList = "number".toList ++ rest ∧
      arguments? (normalize text.toList) =
        some ⟨if p < 0x100000000 then some p else none,
          if -0x80000000 ≤ scale.getD 0 ∧ scale.getD 0 < 0x80000000 then some (scale.getD 0)
          else none⟩ := by
  cases h with
  | @lone name t letters numeral spaced =>
    have tokens : ∀ x ∈ [t], IsToken x := List.forall_mem_singleton.mpr numeral.isToken
    have plain : ∀ x ∈ [t], ∀ c ∈ x, isNumeral c = true ∨ c = ',' :=
      List.forall_mem_singleton.mpr fun c hc => .inl (numeral.isNumeral c hc)
    obtain ⟨rest, inner, normal, list, arguments⟩ := normalize_declared letters tokens plain spaced
    refine ⟨rest, normal, ?_⟩
    rw [arguments?, list, Option.map_some, parts_lone numeral.isNumeral numeral.isToken arguments,
      ← numeral.precision?]
    rfl
  | @scaled name t u s letters numeral signed spaced =>
    have comma : IsToken [','] := isToken_singleton rfl
    have tokens : ∀ x ∈ [t, [','], u], IsToken x := by
      simp [numeral.isToken, comma, signed.isToken]
    have plain : ∀ x ∈ [t, [','], u], ∀ c ∈ x, isNumeral c = true ∨ c = ',' := by
      simp +contextual [numeral.isNumeral, signed.isNumeral]
    obtain ⟨rest, inner, normal, list, arguments⟩ := normalize_declared letters tokens plain spaced
    refine ⟨rest, normal, ?_⟩
    rw [arguments?, list, Option.map_some, parts_pair numeral.isNumeral numeral.isToken
      signed.isNumeral signed.isToken arguments, ← numeral.precision?, Option.getD_some,
      ← signed.scale?]

/-! ## Families -/

/-- The family of a numeric declaration. A scale beyond its word is passed over. -/
theorem semantic?_spelled {text column : String} {p : Nat} {scale : Option Int}
    (plain : isIdentifier column = false) (h : SpellsNumber text p scale) :
    semantic? text column =
      some (if 0 < scale.getD 0 ∧ scale.getD 0 < 0x80000000 then .decimal else .ofPrecision p) := by
  obtain ⟨rest, normal, arguments⟩ := arguments?_spelled h
  have family : family? (normalize text.toList) = some .numeric := by
    rw [normal]
    exact family?_number rest
  simp only [semantic?, family, plain, numericSemantic, arguments, Arguments.semantic,
    Semantic.ofPrecision]
  generalize scale.getD 0 = s
  grind

/-- The declaration of a numeric column. -/
def number (p : Nat) (s : Int) : String := "NUMBER(" ++ toString p ++ "," ++ toString s ++ ")"

theorem spellsNumber_number (p : Nat) (s : Int) : SpellsNumber (number p s) p (some s) := by
  have spaced := Spaced.cons (t := "NUMBER".toList) isGap_nil (.cons (t := ['(']) isGap_nil
    (.cons (t := (toString p).toList) isGap_nil (.cons (t := [',']) isGap_nil
      (.cons (t := (toString s).toList) isGap_nil (.cons (t := [')']) isGap_nil
        (.nil isGap_nil))))))
  have letters : "NUMBER".toList.map Char.toLower = "number".toList := by decide
  refine .scaled letters (numeral_toString p) (signedNumeral_toString s) ?_
  simpa [number] using spaced

theorem semantic?_number_of_nonpos {p : Nat} {s : Int} {column : String}
    (plain : isIdentifier column = false) (scaleless : s ≤ 0) :
    semantic? (number p s) column =
      some (if p ≤ 4 then .shortInt else if p ≤ 9 then .int else if p ≤ 18 then .longInt
        else .decimal) := by
  have small : ¬ (0 < s ∧ s < 0x80000000) := by omega
  rw [semantic?_spelled plain (spellsNumber_number p s), Option.getD_some, if_neg small]
  rfl

/-- **The family of a numeric declaration is that of its precision and scale** unless the scale does
not fit its word and the precision is that of an integer. A lone precision has scale zero. -/
theorem numbers_classified_iff {text column : String} {p : Nat} {scale : Option Int}
    (plain : ¬ ['I', 'D'] <:+ column.toList) (spelled : SpellsNumber text p scale) :
    (semantic? text column = some (if 0 < scale.getD 0 then .decimal else .ofPrecision p) ↔
      scale.getD 0 < 0x80000000 ∨ 18 < p) ∧
    (0x80000000 ≤ scale.getD 0 → semantic? text column = some (.ofPrecision p)) ∧
    ∀ scaled, SpellsNumber scaled p (some (scale.getD 0)) →
      semantic? scaled column = semantic? text column := by
  have plain' : isIdentifier column = false := by
    rw [isIdentifier, ← Bool.not_eq_true, List.isSuffixOf_iff_suffix]
    exact plain
  have family := semantic?_spelled plain' spelled
  refine ⟨?_, ?_, ?_⟩
  · rw [family, Option.some_inj]
    by_cases fits : scale.getD 0 < 0x80000000
    · have same : (0 < scale.getD 0 ∧ scale.getD 0 < 0x80000000) ↔ 0 < scale.getD 0 := by omega
      rw [if_congr same rfl rfl]
      exact iff_of_true rfl (.inl fits)
    · -- Passed over, the scale leaves the family to the precision alone.
      have positive : 0 < scale.getD 0 := by omega
      have passed : ¬ (0 < scale.getD 0 ∧ scale.getD 0 < 0x80000000) := by omega
      rw [if_neg passed, if_pos positive, Semantic.ofPrecision_eq_decimal]
      simp only [fits, false_or]
  · intro large
    have passed : ¬ (0 < scale.getD 0 ∧ scale.getD 0 < 0x80000000) := by omega
    rw [family, if_neg passed]
  · intro scaled spelled'
    rw [family, semantic?_spelled plain' spelled', Option.getD_some]

/-- Small letters, zeros in front of the precision, blanks on all sides and a negative scale. -/
theorem spellsNumber_spaced : SpellsNumber "\tnumber (0010\n, -2 ) " 10 (some (-2)) := by
  have precision : Numeral "0010".toList 10 :=
    ⟨by decide, List.all_eq_true.mp (by decide), by decide⟩
  have scale : SignedNumeral "-2".toList (-2) :=
    .minus ⟨by decide, List.all_eq_true.mp (by decide), by decide⟩
  have letters : "number".toList.map Char.toLower = "number".toList := by decide
  have space : IsGap [' '] := isGap_singleton rfl
  have spaced := Spaced.cons (t := "number".toList) (isGap_singleton (c := '\t') rfl)
    (.cons (t := ['(']) space (.cons (t := "0010".toList) isGap_nil
      (.cons (t := [',']) (isGap_singleton (c := '\n') rfl) (.cons (t := "-2".toList) space
        (.cons (t := [')']) space (.nil space))))))
  refine .scaled letters precision scale ?_
  simpa using spaced

theorem spacedNumber_classified :
    (¬ ['I', 'D'] <:+ "AMOUNT".toList) ∧
    SpellsNumber "\tnumber (0010\n, -2 ) " 10 (some (-2)) ∧
    semantic? "\tnumber (0010\n, -2 ) " "AMOUNT" = some .longInt := by
  have plain : ¬ ['I', 'D'] <:+ "AMOUNT".toList := by decide
  have spelled := spellsNumber_spaced
  have classified := (numbers_classified_iff plain spelled).1.mpr (.inl (by decide))
  exact ⟨plain, spelled, classified⟩

/-- A positive scale that does not fit its word makes an integer of a decimal number. -/
theorem hugeScale_passed_over :
    (¬ ['I', 'D'] <:+ "AMOUNT".toList) ∧
    SpellsNumber "NUMBER(3,2147483648)" 3 (some 2147483648) ∧ (0 : Int) < 2147483648 ∧
    semantic? "NUMBER(3,2147483648)" "AMOUNT" = some .shortInt ∧
    semantic? "NUMBER(3,2147483648)" "AMOUNT" ≠ some .decimal := by
  have plain : ¬ ['I', 'D'] <:+ "AMOUNT".toList := by decide
  have spelled : SpellsNumber "NUMBER(3,2147483648)" 3 (some 2147483648) :=
    spellsNumber_number 3 2147483648
  have family : semantic? "NUMBER(3,2147483648)" "AMOUNT" = some .shortInt :=
    semantic?_spelled (by decide) spelled
  exact ⟨plain, spelled, by decide, family, by rw [family]; decide⟩

end Declaration

end Tablecast
