import Mathlib.Tactic.Linarith
import Mathlib.Tactic.Ring
import Tablecast.Numeric.Binary

/-!
# Rounding to a binary format

The number of a format that is nearest to a quotient has a significand and a power of two. The
power is the spacing of the numbers around the quotient, so the rounded number is off by half a
spacing at most, and a quotient that is a multiple of the spacing is not rounded at all.

* `Format.units_nearest`: the nearest pattern stands for the rounded quotient,
* `Format.rounded_error`: how far it is from the quotient,
* `Binary64.datum_nearest`: what an operation makes of an exact result.
-/

namespace Tablecast.Numeric

/-! ## Whole quotients -/

theorem roundHalfEven_error (num : Nat) {den : Nat} (h : 0 < den) :
    2 * (roundHalfEven num den * den) ≤ 2 * num + den ∧
      2 * num ≤ 2 * (roundHalfEven num den * den) + den := by
  have exact : num = num / den * den + num % den := (Nat.div_add_mod' num den).symm
  have rest := Nat.mod_lt num h
  have up : (num / den + 1) * den = num / den * den + den := Nat.succ_mul _ _
  simp only [roundHalfEven]
  split
  · omega
  · split
    · omega
    · rcases Nat.mod_two_eq_zero_or_one (num / den) with even | odd
      · rw [even, Nat.add_zero]
        omega
      · rw [odd]
        omega

theorem roundHalfEven_bounds (num den : Nat) :
    num / den ≤ roundHalfEven num den ∧ roundHalfEven num den ≤ num / den + 1 := by
  simp only [roundHalfEven]
  split
  · omega
  · split <;> omega

/-- A quotient without rest is kept. -/
theorem roundHalfEven_mul {den : Nat} (h : 0 < den) (q : Nat) :
    roundHalfEven (q * den) den = q := by
  simp [roundHalfEven, h]

/-- The quotient alone counts. -/
theorem roundHalfEven_mul_right {k : Nat} (h : 0 < k) (num den : Nat) :
    roundHalfEven (num * k) (den * k) = roundHalfEven num den := by
  have double : 2 * (num % den * k) = 2 * (num % den) * k := (Nat.mul_assoc _ _ _).symm
  simp only [roundHalfEven, Nat.mul_div_mul_right _ _ h, Nat.mul_mod_mul_right, double,
    Nat.mul_lt_mul_right h]

namespace Format

variable (f : Format)

theorem binade_pos : 0 < f.binade := Nat.pow_pos (by decide)

/-- The numbers around the quotient stand this power of two apart. -/
def shift (num den : Nat) : Nat := (num / den).log2 - f.fractionBits

/-- How many spacings make up the number nearest to the quotient. -/
def significand (num den : Nat) : Nat := roundHalfEven num (den * Nat.pow 2 (f.shift num den))

/-- The units of the number nearest to the quotient, if numbers had no upper bound. -/
def rounded (num den : Nat) : Nat := f.significand num den * Nat.pow 2 (f.shift num den)

variable {f} {num den : Nat}

theorem shift_le_iff {j : Nat} :
    f.shift num den ≤ j ↔ num / den < Nat.pow 2 (f.fractionBits + 1 + j) := by
  unfold shift
  rcases Nat.eq_zero_or_pos (num / den) with zero | pos
  · have positive : 0 < Nat.pow 2 (f.fractionBits + 1 + j) := Nat.pow_pos (by decide)
    rw [zero]
    exact iff_of_true (by simp) positive
  · have bound : (num / den).log2 < f.fractionBits + 1 + j ↔
        num / den < Nat.pow 2 (f.fractionBits + 1 + j) := Nat.log2_lt (by omega)
    rw [← bound]
    omega

theorem rounded_mul_right {k : Nat} (h : 0 < k) :
    f.rounded (num * k) (den * k) = f.rounded num den := by
  have quotient : num * k / (den * k) = num / den := Nat.mul_div_mul_right _ _ h
  have spacing : den * k * Nat.pow 2 (f.shift num den) = den * Nat.pow 2 (f.shift num den) * k := by
    ring
  unfold rounded significand
  rw [shift, quotient, ← shift, spacing, roundHalfEven_mul_right h]

variable (f num den) in
/-- Between two powers of two there are as many numbers as there are fractions. -/
theorem significand_bounds :
    f.significand num den ≤ 2 * f.binade ∧
      (f.shift num den ≠ 0 → f.binade ≤ f.significand num den) := by
  obtain ⟨low, high⟩ := roundHalfEven_bounds num (den * Nat.pow 2 (f.shift num den))
  have positive : 0 < Nat.pow 2 (f.shift num den) := Nat.pow_pos (by decide)
  rw [← Nat.div_div_eq_div_mul] at low high
  refine ⟨?_, fun shifted => ?_⟩
  · have below : num / den < Nat.pow 2 (f.fractionBits + 1 + f.shift num den) :=
      shift_le_iff.mp (Nat.le_refl _)
    have split : Nat.pow 2 (f.fractionBits + 1 + f.shift num den) =
        2 * f.binade * Nat.pow 2 (f.shift num den) := by
      simp only [binade, Nat.pow_eq, pow_add, pow_one]
      ring
    rw [split] at below
    exact high.trans (Nat.div_lt_of_lt_mul (Nat.mul_comm _ _ ▸ below))
  · have above : ¬ num / den < Nat.pow 2 (f.fractionBits + 1 + (f.shift num den - 1)) := by
      rw [← shift_le_iff]
      omega
    have split : Nat.pow 2 (f.fractionBits + 1 + (f.shift num den - 1)) =
        f.binade * Nat.pow 2 (f.shift num den) := by
      have same : f.fractionBits + 1 + (f.shift num den - 1) =
          f.fractionBits + f.shift num den := by
        omega
      rw [same]
      exact Nat.pow_add 2 _ _
    rw [split, Nat.not_lt] at above
    exact ((Nat.le_div_iff_mul_le positive).mpr above).trans low

/-- A pattern made of a spacing and a significand stands for their product. -/
theorem units_parts {spacings power : Nat} (high : spacings ≤ 2 * f.binade)
    (low : power ≠ 0 → f.binade ≤ spacings) :
    f.units (power * f.binade + spacings) = spacings * Nat.pow 2 power := by
  have positive := f.binade_pos
  unfold units spacing
  rcases Nat.lt_or_ge spacings f.binade with small | large
  · obtain rfl : power = 0 := by
      by_contra shifted
      exact absurd (low shifted) (by omega)
    simp [Nat.div_eq_of_lt small, Nat.mod_eq_of_lt small]
  · rcases Nat.lt_or_ge spacings (2 * f.binade) with inside | carry
    · have parts : power * f.binade + spacings =
          (spacings - f.binade) + f.binade * (power + 1) := by
        rw [Nat.mul_succ, Nat.mul_comm f.binade power]
        omega
      have fraction : spacings - f.binade < f.binade := by omega
      rw [parts, Nat.add_mul_mod_self_left, Nat.add_mul_div_left _ _ positive,
        Nat.div_eq_of_lt fraction, Nat.mod_eq_of_lt fraction]
      simp [Nat.add_sub_cancel' large]
    · obtain rfl : spacings = 2 * f.binade := by omega
      have parts : power * f.binade + 2 * f.binade = f.binade * (power + 2) := by ring
      rw [parts, Nat.mul_mod_right, Nat.mul_div_cancel_left _ positive]
      simp [pow_succ]
      ring

/-- The nearest pattern stands for the rounded quotient. -/
theorem units_nearest (finite : f.nearest num den < f.infinity) :
    f.units (f.nearest num den) = f.rounded num den := by
  obtain ⟨high, low⟩ := significand_bounds f num den
  have below : f.shift num den * f.binade + f.significand num den < f.infinity :=
    (min_lt_iff.mp finite).resolve_right (Nat.lt_irrefl _)
  have pattern : f.nearest num den = f.shift num den * f.binade + f.significand num den :=
    Nat.min_eq_left below.le
  rw [pattern, units_parts high low]
  rfl

/-- A quotient far enough below the largest number has a finite nearest pattern. -/
theorem nearest_lt_infinity {bits : Nat} (wide : bits < Nat.pow 2 f.exponentBits - 3)
    (h : num / den < Nat.pow 2 (f.fractionBits + 1 + bits)) :
    f.nearest num den < f.infinity := by
  have shift : f.shift num den ≤ bits := shift_le_iff.mpr h
  have high := (significand_bounds f num den).1
  have room : (f.shift num den + 3) * f.binade ≤ f.infinity :=
    Nat.mul_le_mul_right _ (by omega)
  have positive := f.binade_pos
  refine min_lt_iff.mpr (.inl ?_)
  change f.shift num den * f.binade + f.significand num den < f.infinity
  rw [Nat.add_mul] at room
  omega

/-! ## Errors -/

variable (f num) in
/-- A rounded quotient is off by half a spacing at most. -/
theorem rounded_error (h : 0 < den) :
    2 * (f.rounded num den * den) ≤ 2 * num + den * Nat.pow 2 (f.shift num den) ∧
      2 * num ≤ 2 * (f.rounded num den * den) + den * Nat.pow 2 (f.shift num den) := by
  have positive : 0 < Nat.pow 2 (f.shift num den) := Nat.pow_pos (by decide)
  have error := roundHalfEven_error num (Nat.mul_pos h positive)
  have product : f.rounded num den * den =
      f.significand num den * (den * Nat.pow 2 (f.shift num den)) := by
    unfold rounded
    ring
  rw [product]
  exact error

/-- Above the least numbers, the spacing is a small part of the quotient. -/
theorem spacing_le (normal : f.binade ≤ num / den) :
    den * Nat.pow 2 (f.shift num den) * f.binade ≤ num := by
  have nonzero : num / den ≠ 0 := by
    have := f.binade_pos
    omega
  have power : Nat.pow 2 (f.shift num den) * f.binade ≤ num / den := by
    have exponent : f.shift num den + f.fractionBits = (num / den).log2 := by
      have := (Nat.le_log2 nonzero).mpr normal
      unfold shift
      omega
    calc Nat.pow 2 (f.shift num den) * f.binade
        = Nat.pow 2 (f.shift num den + f.fractionBits) := (Nat.pow_add 2 _ _).symm
      _ = Nat.pow 2 (num / den).log2 := by rw [exponent]
      _ ≤ num / den := Nat.log2_self_le nonzero
  calc den * Nat.pow 2 (f.shift num den) * f.binade
      = den * (Nat.pow 2 (f.shift num den) * f.binade) := Nat.mul_assoc _ _ _
    _ ≤ den * (num / den) := Nat.mul_le_mul_left _ power
    _ ≤ num := Nat.mul_div_le _ _

theorem rounded_relative_error (h : 0 < den) (normal : f.binade ≤ num / den) :
    2 * f.binade * (f.rounded num den * den) ≤ (2 * f.binade + 1) * num ∧
      2 * f.binade * num ≤ 2 * f.binade * (f.rounded num den * den) + num := by
  obtain ⟨above, below⟩ := rounded_error f num h
  have small := spacing_le normal
  constructor <;> nlinarith [f.binade_pos]

/-- A multiple of the spacing is kept. -/
theorem rounded_of_dvd (h : 0 < den) (multiple : den * Nat.pow 2 (f.shift num den) ∣ num) :
    f.rounded num den * den = num := by
  obtain ⟨q, hq⟩ := multiple
  have positive : 0 < Nat.pow 2 (f.shift num den) := Nat.pow_pos (by decide)
  have whole : f.significand num den = q := by
    have kept := roundHalfEven_mul (Nat.mul_pos h positive) q
    rwa [Nat.mul_comm q, ← hq] at kept
  rw [rounded, whole, Nat.mul_assoc, Nat.mul_comm _ den, Nat.mul_comm, ← hq]

end Format

/-! ## Operations -/

namespace Binary64

theorem datum_ofPattern (negative : Bool) {pattern : Nat} (finite : pattern < binary64.infinity) :
    (ofPattern negative pattern).datum = .finite negative (binary64.units pattern) := by
  have infinity : binary64.infinity = 9218868437227405312 := rfl
  have sign : binary64.signBit = 9223372036854775808 := rfl
  rw [infinity] at finite
  have small : binary64.withSign negative pattern < 2 ^ 64 := by
    unfold Format.withSign
    split <;> omega
  have bits : (ofPattern negative pattern).bits.toNat = binary64.withSign negative pattern :=
    Nat.mod_eq_of_lt small
  rw [datum, bits, Format.datum]
  cases negative with
  | false =>
    have positive : ¬ binary64.signBit ≤ pattern := by omega
    have low : pattern % binary64.signBit = pattern := Nat.mod_eq_of_lt (by omega)
    simp only [Format.withSign, Bool.false_eq_true, if_false, positive, decide_false, low, infinity,
      if_pos finite]
  | true =>
    have negative : binary64.signBit ≤ binary64.signBit + pattern := Nat.le_add_right _ _
    have low : (binary64.signBit + pattern) % binary64.signBit = pattern := by
      rw [Nat.add_mod_left]
      exact Nat.mod_eq_of_lt (by omega)
    simp only [Format.withSign, if_true, negative, decide_true, low, infinity, if_pos finite]

/-- What an operation makes of an exact result that is not too large. -/
theorem datum_nearest (negative : Bool) {num den bits : Nat} (wide : bits < 2045)
    (h : num / den < Nat.pow 2 (53 + bits)) :
    (ofPattern negative (binary64.nearest num den)).datum =
      .finite negative (binary64.rounded num den) := by
  have finite : binary64.nearest num den < binary64.infinity :=
    Format.nearest_lt_infinity wide h
  rw [datum_ofPattern negative finite, Format.units_nearest finite]

variable {x y : Binary64} {s t : Bool} {m n : Nat}

theorem datum_mul (hx : x.datum = .finite s m) (hy : y.datum = .finite t n) {bits : Nat}
    (wide : bits < 2045) (h : m * n / binary64.one < Nat.pow 2 (53 + bits)) :
    (x.mul y).datum = .finite (s != t) (binary64.rounded (m * n) binary64.one) := by
  simp only [mul, hx, hy]
  exact datum_nearest _ wide h

theorem datum_div (hx : x.datum = .finite s m) (hy : y.datum = .finite t n) (nonzero : n ≠ 0)
    {bits : Nat} (wide : bits < 2045) (h : m * binary64.one / n < Nat.pow 2 (53 + bits)) :
    (x.div y).datum = .finite (s != t) (binary64.rounded (m * binary64.one) n) := by
  simp only [div, hx, hy, if_neg nonzero]
  exact datum_nearest _ wide h

theorem datum_ofInt (n : Int) {bits : Nat} (wide : bits < 2045)
    (h : n.natAbs * binary64.one < Nat.pow 2 (53 + bits)) :
    (ofInt n).datum = .finite (n < 0) (binary64.rounded (n.natAbs * binary64.one) 1) :=
  datum_nearest _ wide (by rwa [Nat.div_one])

end Binary64

end Tablecast.Numeric
