import Tablecast.Declaration
import Tablecast.Proofs.Text.Spacing

/-!
# Numerals in declarations

Numerals of any length, with zeros in front or not, and what a declaration makes of them. A
precision or a scale that does not fit its word is none at all.

- `numeral_toString`, `signedNumeral_toString`: a printed number is a numeral of itself,
- `Numeral.precision?`, `SignedNumeral.scale?`: numerals are read as far as they fit.
-/

namespace Tablecast.Declaration

open Text

/-! ## Numerals -/

/-- The digits write the number. -/
structure Numeral (t : List Char) (n : Nat) : Prop where
  nonempty : t ≠ []
  digits : ∀ c ∈ t, c.isDigit = true
  value : Nat.ofDigitChars 10 t 0 = n

/-- Digits, or a minus and digits, write the number. -/
inductive SignedNumeral : List Char → Int → Prop
  | plain {t : List Char} {n : Nat} (magnitude : Numeral t n) : SignedNumeral t n
  | minus {t : List Char} {n : Nat} (magnitude : Numeral t n) : SignedNumeral ('-' :: t) (-n)

/-! ## What they are made of -/

/-- What a numeral is made of. -/
def isNumeral (c : Char) : Bool := c.isDigit || c == '-'

theorem toNat_of_isNumeral {c : Char} (h : isNumeral c = true) :
    48 ≤ c.toNat ∧ c.toNat ≤ 57 ∨ c.toNat = 45 := by
  simp only [isNumeral, Bool.or_eq_true, Char.isDigit, Bool.and_eq_true, decide_eq_true_eq,
    beq_iff_eq] at h
  rcases h with ⟨low, high⟩ | rfl
  · exact .inl ⟨UInt32.le_iff_toNat_le.mp low, UInt32.le_iff_toNat_le.mp high⟩
  · exact .inr rfl

theorem isBlank_of_isNumeral {c : Char} (h : isNumeral c = true) : isBlank c = false := by
  have range := toNat_of_isNumeral h
  simp only [isBlank, blankRanges, CodeRanges.contains]
  grind

theorem Numeral.isNumeral {t : List Char} {n : Nat} (h : Numeral t n) :
    ∀ c ∈ t, Declaration.isNumeral c = true := by
  intro c hc
  rw [Declaration.isNumeral, h.digits c hc, Bool.true_or]

theorem SignedNumeral.isNumeral {t : List Char} {s : Int} (h : SignedNumeral t s) :
    ∀ c ∈ t, Declaration.isNumeral c = true := by
  cases h with
  | plain magnitude => exact magnitude.isNumeral
  | minus magnitude => exact List.forall_mem_cons.mpr ⟨rfl, magnitude.isNumeral⟩

theorem Numeral.isToken {t : List Char} {n : Nat} (h : Numeral t n) : IsToken t where
  nonempty := h.nonempty
  solid := fun c hc => isBlank_of_isNumeral (h.isNumeral c hc)

theorem SignedNumeral.isToken {t : List Char} {s : Int} (h : SignedNumeral t s) : IsToken t where
  nonempty := by
    cases h with
    | plain magnitude => exact magnitude.nonempty
    | minus _ => exact List.cons_ne_nil _ _
  solid := fun c hc => isBlank_of_isNumeral (h.isNumeral c hc)

/-! ## Printed numbers -/

theorem isDigit_of_mem_toDigits {n : Nat} : ∀ c ∈ Nat.toDigits 10 n, c.isDigit = true :=
  fun _ h => Nat.isDigit_of_mem_toDigits (by decide) (by decide) h

theorem toList_toString_nat (n : Nat) : (toString n).toList = Nat.toDigits 10 n := by
  rw [Nat.toString_eq_ofList_toDigits, String.toList_ofList]

theorem toList_toString_int (s : Int) :
    (toString s).toList =
      if s < 0 then '-' :: Nat.toDigits 10 s.natAbs else Nat.toDigits 10 s.natAbs := by
  rw [Int.toString_eq_repr, Int.repr_eq_if]
  rcases Int.lt_or_le s 0 with negative | nonnegative
  · have magnitude : (-s).toNat = s.natAbs := by omega
    simp [negative, Int.not_le.mpr negative, magnitude]
  · have magnitude : s.toNat = s.natAbs := by omega
    simp [nonnegative, Int.not_lt.mpr nonnegative, magnitude]

theorem numeral_toDigits (n : Nat) : Numeral (Nat.toDigits 10 n) n where
  nonempty := Nat.toDigits_ne_nil
  digits := isDigit_of_mem_toDigits
  value := Nat.ofDigitChars_ten_toDigits

theorem numeral_toString (n : Nat) : Numeral (toString n).toList n :=
  toList_toString_nat n ▸ numeral_toDigits n

theorem signedNumeral_toString (s : Int) : SignedNumeral (toString s).toList s := by
  have magnitude := numeral_toDigits s.natAbs
  rw [toList_toString_int]
  split
  next negative =>
    have sign : -(s.natAbs : Int) = s := by omega
    have signed := SignedNumeral.minus magnitude
    rwa [sign] at signed
  next nonnegative =>
    have sign : (s.natAbs : Int) = s := by omega
    have unsigned := SignedNumeral.plain magnitude
    rwa [sign] at unsigned

/-! ## Reading them -/

theorem Numeral.digits? {t : List Char} {n : Nat} (h : Numeral t n) : digits? t = some n := by
  rw [Declaration.digits?, ← Nat.ofDigitChars_eq_foldl, h.value]
  simp [List.all_eq_true.mpr h.digits, h.nonempty]

theorem digits?_toDigits (n : Nat) : digits? (Nat.toDigits 10 n) = some n :=
  (numeral_toDigits n).digits?

theorem Numeral.precision? {t : List Char} {n : Nat} (h : Numeral t n) :
    precision? t = if n < 0x100000000 then some n else none := by
  unfold Declaration.precision?
  split
  · exact absurd (h.digits '+' List.mem_cons_self) (by decide)
  · rw [h.digits?]
    simp [Option.filter]

theorem SignedNumeral.scale? {t : List Char} {s : Int} (h : SignedNumeral t s) :
    scale? t = if -0x80000000 ≤ s ∧ s < 0x80000000 then some s else none := by
  cases h with
  | @plain _ n magnitude =>
    unfold Declaration.scale?
    split
    · exact absurd (magnitude.digits '-' List.mem_cons_self) (by decide)
    · exact absurd (magnitude.digits '+' List.mem_cons_self) (by decide)
    · rw [magnitude.digits?, Option.filter]
      grind
  | @minus t n magnitude =>
    rw [Declaration.scale?, magnitude.digits?, Option.filter]
    grind

end Tablecast.Declaration
