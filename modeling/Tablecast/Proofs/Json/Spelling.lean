import Mathlib.Tactic.SplitIfs
import Tablecast.Proofs.Json.Grammar

/-!
# Strings are read as they are spelled

A reader of strings accepts exactly the bodies that spell a text, up to the first quote that is
not escaped, and returns that text.

* `readText_spelled`, `spelled_of_readText`: the two directions,
* `StringBody.ends_once`: where a string ends does not depend on what stands behind it.
-/

namespace Tablecast.Json

/-! ## Code units -/

/-- Something that takes the digits of a code unit one by one, with the number of those to come
after the next one and their value so far, and goes on with the unit. -/
structure TakesCodeUnit {β : Type} (read : Nat → Nat → List Char → Except Fault β)
    (behind : Nat → List Char → Except Fault β) : Prop where
  atEnd : ∀ left value, read left value [] = .error .endInString
  other : ∀ left value c s, hexDigit? c = none →
    read left value (c :: s) = .error (digitFault (left + 1) (c :: s))
  digit : ∀ left value c s d, hexDigit? c = some d →
    read (left + 1) value (c :: s) = read left (16 * value + d) s
  last : ∀ value c s d, hexDigit? c = some d →
    read 0 value (c :: s) = behind (16 * value + d) s

namespace TakesCodeUnit

variable {β : Type} {read : Nat → Nat → List Char → Except Fault β}
  {behind : Nat → List Char → Except Fault β} (takes : TakesCodeUnit read behind)

include takes

theorem written {digits : List Char} {n : Nat} (unit : CodeUnit digits n) (s : List Char) :
    read 3 0 (digits ++ s) = behind n s := by
  obtain ⟨ha, hb, hc, hd⟩ := unit
  simp only [List.cons_append, List.nil_append]
  rw [takes.digit 2 _ _ _ _ ha, takes.digit 1 _ _ _ _ hb, takes.digit 0 _ _ _ _ hc,
    takes.last _ _ _ _ hd]
  simp

/-- Unless there is a fault, the next character is a digit. -/
theorem starts {left value : Nat} {s : List Char} {r : β} (h : read left value s = .ok r) :
    ∃ c d more, s = c :: more ∧ hexDigit? c = some d := by
  cases s with
  | nil => simp [takes.atEnd] at h
  | cons c more =>
    cases digit : hexDigit? c with
    | none => simp [takes.other _ _ _ _ digit] at h
    | some d => exact ⟨c, d, more, rfl, digit⟩

theorem of_ok {s : List Char} {r : β} (h : read 3 0 s = .ok r) :
    ∃ digits n more, CodeUnit digits n ∧ s = digits ++ more ∧ behind n more = .ok r := by
  obtain ⟨a, i, s, rfl, ha⟩ := takes.starts h
  rw [takes.digit 2 _ _ _ _ ha] at h
  obtain ⟨b, j, s, rfl, hb⟩ := takes.starts h
  rw [takes.digit 1 _ _ _ _ hb] at h
  obtain ⟨c, k, s, rfl, hc⟩ := takes.starts h
  rw [takes.digit 0 _ _ _ _ hc] at h
  obtain ⟨d, l, s, rfl, hd⟩ := takes.starts h
  rw [takes.last _ _ _ _ hd, Nat.mul_zero, Nat.zero_add] at h
  exact ⟨_, _, s, .digits ha hb hc hd, rfl, h⟩

end TakesCodeUnit

/-- What a reader of strings does with a code unit that is no second half of a pair. -/
def behindUnit (acc : List Char) (n : Nat) (s : List Char) :
    Except Fault (List Char × List Char) :=
  if 0xDC00 ≤ n ∧ n ≤ 0xDFFF then .error .loneSurrogate
  else if 0xD800 ≤ n ∧ n ≤ 0xDBFF then readText (.lead n) acc s
  else readText .plain (Char.ofNat n :: acc) s

/-- What it does with a second half. -/
def behindHalf (high : Nat) (acc : List Char) (n : Nat) (s : List Char) :
    Except Fault (List Char × List Char) :=
  if 0xDC00 ≤ n ∧ n ≤ 0xDFFF then readText .plain (joinSurrogates high n :: acc) s
  else .error .loneSurrogate

theorem takesCodeUnit_codeUnit (acc : List Char) :
    TakesCodeUnit (fun left value => readText (.codeUnit left value) acc) (behindUnit acc) where
  atEnd _ _ := readText_end _ _
  other _ _ _ _ none := by simp only [readText, none]
  digit _ _ _ _ _ digit := by simp only [readText, digit]
  last _ _ _ _ digit := by simp only [readText, digit, behindUnit]

theorem takesCodeUnit_trail (high : Nat) (acc : List Char) :
    TakesCodeUnit (fun left value => readText (.trail high left value) acc)
      (behindHalf high acc) where
  atEnd _ _ := readText_end _ _
  other _ _ _ _ none := by simp only [readText, none]
  digit _ _ _ _ _ digit := by simp only [readText, digit]
  last _ _ _ _ digit := by simp only [readText, digit, behindHalf]

/-! ## Reading -/

section

variable {acc s : List Char}

theorem readText_plain {c : Char} (quote : c ≠ '"') (slash : c ≠ '\\')
    (control : ¬ c.toNat < 0x20) :
    readText .plain acc (c :: s) = readText .plain (c :: acc) s := by
  rw [readText, if_neg quote, if_neg slash, if_neg control]

theorem readText_escape {c x : Char} (simple : simpleEscape? c = some x) :
    readText .plain acc ('\\' :: c :: s) = readText .plain (x :: acc) s := by
  have behind : readText .plain acc ('\\' :: c :: s) = readText .escape acc (c :: s) := rfl
  rw [behind, readText, simple]

theorem readText_unit {digits : List Char} {n : Nat} (unit : CodeUnit digits n) :
    readText .plain acc ('\\' :: 'u' :: (digits ++ s)) = behindUnit acc n s :=
  (takesCodeUnit_codeUnit acc).written unit s

theorem readText_lead {digits : List Char} {high n : Nat} (unit : CodeUnit digits n) :
    readText (.lead high) acc ('\\' :: 'u' :: (digits ++ s)) = behindHalf high acc n s :=
  (takesCodeUnit_trail high acc).written unit s

end

theorem readText_spelled {body text : List Char} (h : Spells body text) (acc rest : List Char) :
    readText .plain acc (body ++ '"' :: rest) = .ok (acc.reverse ++ text, rest) := by
  induction h generalizing acc with
  | nil => simp [readText]
  | plain quote slash control _ ih => simp [readText_plain quote slash control, ih]
  | escape simple _ ih => simp [readText_escape simple, ih]
  | @codeUnit digits s text n unit whole _ ih =>
    have second : ¬ (0xDC00 ≤ n ∧ n ≤ 0xDFFF) := by omega
    have first : ¬ (0xD800 ≤ n ∧ n ≤ 0xDBFF) := by omega
    simp [readText_unit unit, behindUnit, second, first, ih]
  | @pair leading trailing s text high low unit unit' first second _ ih =>
    have single : ¬ (0xDC00 ≤ high ∧ high ≤ 0xDFFF) := by omega
    simp [readText_unit unit, behindUnit, single, first, readText_lead unit', behindHalf, second,
      ih]

/-- What is accepted behind the backslash of an escape. -/
theorem escape_of_readText {acc s : List Char} {r : List Char × List Char}
    (h : readText .escape acc s = .ok r) :
    (∃ c x more, s = c :: more ∧ simpleEscape? c = some x ∧
      readText .plain (x :: acc) more = .ok r) ∨
    (∃ digits n more, CodeUnit digits n ∧ s = 'u' :: (digits ++ more) ∧
      behindUnit acc n more = .ok r) := by
  cases s with
  | nil => simp [readText_end] at h
  | cons c more =>
    cases simple : simpleEscape? c with
    | some x =>
      simp only [readText, simple] at h
      exact .inl ⟨c, x, more, rfl, simple, h⟩
    | none =>
      simp only [readText, simple] at h
      split_ifs at h with letter
      obtain ⟨digits, n, more, unit, rfl, taken⟩ := (takesCodeUnit_codeUnit acc).of_ok h
      exact .inr ⟨digits, n, more, unit, by rw [letter], taken⟩

theorem half_of_readText {acc s : List Char} {high : Nat} {r : List Char × List Char}
    (h : readText (.lead high) acc s = .ok r) :
    ∃ digits n more, CodeUnit digits n ∧ s = '\\' :: 'u' :: (digits ++ more) ∧
      behindHalf high acc n more = .ok r := by
  match s with
  | [] => simp [readText_end] at h
  | [c] =>
    simp only [readText] at h
    split_ifs at h
  | c :: e :: more =>
    simp only [readText] at h
    split_ifs at h with slash letter
    obtain ⟨digits, n, more, unit, rfl, taken⟩ := (takesCodeUnit_trail high acc).of_ok h
    exact ⟨digits, n, more, unit, by rw [slash, letter], taken⟩

/-- A string that is accepted spells the text it is read as. -/
theorem spelled_of_readText {acc s text rest : List Char}
    (h : readText .plain acc s = .ok (text, rest)) :
    ∃ body spelled, Spells body spelled ∧ s = body ++ '"' :: rest ∧
      text = acc.reverse ++ spelled := by
  -- An escape takes more than one character, so the induction is on how much of the text is left.
  induction n : s.length using Nat.strongRecOn generalizing acc s with
  | ind n ih =>
    subst n
    cases s with
    | nil => simp [readText_end] at h
    | cons c s =>
      simp only [readText] at h
      split_ifs at h with quote slash control
      · injection h with h
        injection h with same same'
        subst quote same same'
        exact ⟨[], [], .nil, rfl, by simp⟩
      · subst slash
        obtain ⟨c, x, more, rfl, simple, read⟩ | ⟨digits, n, more, unit, rfl, read⟩ :=
          escape_of_readText h
        · have shorter : more.length < ('\\' :: c :: more).length :=
            Nat.lt_succ_of_lt (Nat.lt_succ_self _)
          obtain ⟨body, spelled, spells, rfl, rfl⟩ := ih _ shorter read rfl
          exact ⟨_, _, .escape simple spells, rfl, by simp⟩
        · rw [behindUnit] at read
          split_ifs at read with second first
          · obtain ⟨digits', low, more, unit', rfl, paired⟩ := half_of_readText read
            rw [behindHalf] at paired
            split_ifs at paired with second'
            obtain ⟨body, spelled, spells, rfl, rfl⟩ :=
              ih _ (by simp only [List.length_cons, List.length_append]; omega) paired rfl
            exact ⟨_, _, .pair unit unit' first second' spells, by simp, by simp⟩
          · obtain ⟨body, spelled, spells, rfl, rfl⟩ :=
              ih _ (by simp only [List.length_cons, List.length_append]; omega) read rfl
            have whole : ¬ (0xD800 ≤ n ∧ n ≤ 0xDFFF) := by omega
            exact ⟨_, _, .codeUnit unit whole spells, by simp, by simp⟩
      · obtain ⟨body, spelled, spells, rfl, rfl⟩ := ih _ (Nat.lt_succ_self _) h rfl
        exact ⟨_, _, .plain quote slash control spells, rfl, by simp⟩

/-! ## Where a string ends -/

theorem CodeUnit.length_eq {digits : List Char} {n : Nat} (h : CodeUnit digits n) :
    digits.length = 4 := by
  cases h
  rfl

theorem StringBody.ends_once {body body' rest rest' : List Char} (h : StringBody body)
    (h' : StringBody body') (same : body ++ '"' :: rest = body' ++ '"' :: rest') :
    body = body' ∧ rest = rest' := by
  have letter : simpleEscape? 'u' = none := by decide
  induction h generalizing body' with
  | nil =>
    cases h' with
    | nil => exact ⟨rfl, by simpa using same⟩
    | plain quote => exact absurd (List.cons.inj same).1.symm quote
    | escape | codeUnit => simp at same
  | plain quote slash _ _ ih =>
    cases h' with
    | nil => exact absurd (List.cons.inj same).1 quote
    | plain _ _ _ more =>
      obtain ⟨rfl, behind⟩ := List.cons.inj same
      obtain ⟨rfl, rfl⟩ := ih more behind
      exact ⟨rfl, rfl⟩
    | escape | codeUnit => exact absurd (List.cons.inj same).1 slash
  | escape simple _ ih =>
    cases h' with
    | nil => simp at same
    | plain _ slash => exact absurd (List.cons.inj same).1.symm slash
    | escape _ more =>
      obtain ⟨rfl, behind⟩ := List.cons.inj (List.cons.inj same).2
      obtain ⟨rfl, rfl⟩ := ih more behind
      exact ⟨rfl, rfl⟩
    | codeUnit =>
      rw [(List.cons.inj (List.cons.inj same).2).1, letter] at simple
      cases simple
  | codeUnit unit _ ih =>
    cases h' with
    | nil => simp at same
    | plain _ slash => exact absurd (List.cons.inj same).1.symm slash
    | escape simple =>
      rw [← (List.cons.inj (List.cons.inj same).2).1, letter] at simple
      cases simple
    | codeUnit unit' more =>
      rename_i digits s _ _ digits' s' _
      have behind : digits ++ (s ++ '"' :: rest) = digits' ++ (s' ++ '"' :: rest') := by
        simpa using same
      have sameLength := unit.length_eq.trans unit'.length_eq.symm
      obtain ⟨rfl, behind'⟩ := List.append_inj behind sameLength
      obtain ⟨rfl, rfl⟩ := ih more behind'
      exact ⟨rfl, rfl⟩

end Tablecast.Json
