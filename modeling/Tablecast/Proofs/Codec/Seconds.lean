import Mathlib.Tactic.Linarith
import Tablecast.Proofs.Codec.RoundTrip
import Tablecast.Proofs.Numeric.Rounding

/-!
# Timestamps as seconds

A timestamp travels as seconds since the epoch, a floating point number. Reading it back multiplies
these by a million, so after the microseconds themselves a quotient and a product are rounded. The
two errors together stay below half a microsecond as long as the seconds are less than 2^32, and
also where the product is large enough to be a whole number and the seconds are less than 2^33.
Elsewhere a timestamp may come back as another one.

* `Seconds.readBack_of_lt`, `Seconds.readBack_of_between`: when microseconds survive,
* `Seconds.readBack_error`: how far they are off in general,
* `Calendar.Timestamp.seconds_keep_microseconds`: timestamps through a column.
-/

namespace Tablecast

open Calendar Numeric

/-! ## Roundings on the way -/

namespace Seconds

/-- The units of a number of microseconds. -/
def microseconds (m : Nat) : Nat := binary64.rounded (m * binary64.one) 1

/-- The units of so many microseconds in seconds. -/
def seconds (m : Nat) : Nat := binary64.rounded (microseconds m) 1000000

/-- The units of the microseconds that these seconds stand for. -/
def product (m : Nat) : Nat := binary64.rounded (1000000 * seconds m) 1

/-- The whole microseconds that these seconds stand for. -/
def readBack (m : Nat) : Nat := (2 * product m + binary64.one) / (2 * binary64.one)

/-- The same on both sides of the epoch. -/
def signedReadBack (n : Int) : Int :=
  if n < 0 then -(readBack n.natAbs : Int) else readBack n.natAbs

theorem one_large : 4503599627370496 * 4503599627370496 ≤ binary64.one := by decide +kernel

/-- The first number is the second one up to the error of one rounding. -/
structure Near (a b : Nat) : Prop where
  above : 9007199254740992 * a ≤ 9007199254740993 * b
  below : 9007199254740992 * b ≤ 9007199254740992 * a + b

theorem near_rounded {num den : Nat} (h : 0 < den)
    (normal : num = 0 ∨ 4503599627370496 ≤ num / den) :
    Near (binary64.rounded num den * den) num := by
  rcases normal with rfl | normal
  · have zero : binary64.rounded 0 den * den = 0 := Format.rounded_of_dvd h (Nat.dvd_zero _)
    rw [zero]
    exact ⟨Nat.le_refl _, Nat.le_refl _⟩
  · have binade : binary64.binade = 4503599627370496 := rfl
    obtain ⟨above, below⟩ := Format.rounded_relative_error h (binade ▸ normal)
    rw [binade] at above below
    exact ⟨above, below⟩

variable {m : Nat}

/-- The spacing of numbers below 2^53, or a part of it, is one, or that part of one. -/
theorem spacing_mul_le {num den : Nat} (i part : Nat) (power : Nat.pow 2 i = part)
    (inside : i ≤ binary64.scale) (h : num / den * part < 9007199254740992 * binary64.one) :
    Nat.pow 2 (binary64.shift num den) * part ≤ binary64.one := by
  obtain ⟨j, parts⟩ : ∃ j, Nat.pow 2 j * part = binary64.one := by
    obtain ⟨n, inside, one⟩ : ∃ n, i ≤ n ∧ Nat.pow 2 n = binary64.one :=
      ⟨binary64.scale, inside, by rw [Format.one]⟩
    refine ⟨n - i, ?_⟩
    rw [← power, ← one]
    exact Nat.pow_sub_mul_pow 2 inside
  have below : num / den < Nat.pow 2 (53 + j) := by
    have split : Nat.pow 2 (53 + j) = 9007199254740992 * Nat.pow 2 j := Nat.pow_add 2 53 j
    refine Nat.lt_of_mul_lt_mul_right (a := part) ?_
    rwa [split, Nat.mul_assoc, parts]
  have spacing : Nat.pow 2 (binary64.shift num den) ≤ Nat.pow 2 j :=
    Nat.pow_le_pow_right (by decide) (Format.shift_le_iff.mpr below)
  rw [← parts]
  exact Nat.mul_le_mul_right part spacing

theorem zero_or_large (m : Nat) : m * binary64.one = 0 ∨ binary64.one ≤ m * binary64.one := by
  rcases Nat.eq_zero_or_pos m with rfl | positive
  · exact .inl (Nat.zero_mul _)
  · exact .inr (Nat.le_mul_of_pos_left _ positive)

theorem near_microseconds (m : Nat) : Near (microseconds m) (m * binary64.one) := by
  have one := one_large
  have large := zero_or_large m
  have near : Near (microseconds m * 1) (m * binary64.one) := near_rounded Nat.one_pos (by omega)
  rwa [Nat.mul_one] at near

theorem near_seconds (m : Nat) : Near (seconds m * 1000000) (microseconds m) := by
  have one := one_large
  have large := zero_or_large m
  obtain ⟨above, below⟩ := near_microseconds m
  exact near_rounded (by decide) (by omega)

theorem near_product (m : Nat) : Near (product m) (1000000 * seconds m) := by
  have one := one_large
  have large := zero_or_large m
  obtain ⟨above, below⟩ := near_microseconds m
  obtain ⟨above', below'⟩ := near_seconds m
  have near : Near (product m * 1) (1000000 * seconds m) := near_rounded Nat.one_pos (by omega)
  rwa [Nat.mul_one] at near

/-- Microseconds of 53 binary digits are numbers of the format. -/
theorem microseconds_eq (h : m < 9007199254740992) : microseconds m = m * binary64.one := by
  obtain ⟨j, top, power⟩ : ∃ j, Nat.pow 2 (53 + j) = 9007199254740992 * binary64.one ∧
      Nat.pow 2 j = binary64.one :=
    ⟨1074, by decide +kernel, by decide +kernel⟩
  have one := one_large
  have below : m * binary64.one / 1 < Nat.pow 2 (53 + j) := by
    rw [Nat.div_one, top]
    exact Nat.mul_lt_mul_of_pos_right h (by omega)
  have spacing : Nat.pow 2 (binary64.shift (m * binary64.one) 1) ∣ Nat.pow 2 j :=
    Nat.pow_dvd_pow 2 (Format.shift_le_iff.mpr below)
  have kept : binary64.rounded (m * binary64.one) 1 * 1 = m * binary64.one := by
    apply Format.rounded_of_dvd Nat.one_pos
    rw [Nat.one_mul]
    exact (power ▸ spacing).mul_left m
  rwa [Nat.mul_one] at kept

/-- Below a power of two, a million times the seconds are off by a part of a microsecond. -/
theorem seconds_error (i part : Nat) (power : Nat.pow 2 i = part) (inside : i ≤ binary64.scale)
    (digits : m < 9007199254740992)
    (h : m * binary64.one / 1000000 * part < 9007199254740992 * binary64.one) :
    2 * part * (1000000 * seconds m) ≤ 2 * part * (m * binary64.one) + 1000000 * binary64.one ∧
      2 * part * (m * binary64.one) ≤
        2 * part * (1000000 * seconds m) + 1000000 * binary64.one := by
  have exact := microseconds_eq digits
  obtain ⟨above, below⟩ := Format.rounded_error binary64 (microseconds m)
    (Nat.succ_pos 999999)
  have spacing := spacing_mul_le i part power inside h
  rw [← seconds, exact] at above below
  constructor <;> nlinarith

/-! ## Microseconds that are read back -/

theorem readBack_eq {k : Nat} (low : 2 * (k * binary64.one) ≤ 2 * product m + binary64.one)
    (high : 2 * product m < 2 * (k * binary64.one) + binary64.one) : readBack m = k := by
  refine Nat.div_eq_of_lt_le ?_ ?_
  · linarith
  · linarith

/-- Numbers from 2^52 on are whole. -/
theorem product_eq_readBack (large : 4503599627370496 * binary64.one ≤ 1000000 * seconds m) :
    product m = readBack m * binary64.one := by
  obtain ⟨j, top, power⟩ : ∃ j, Nat.pow 2 (53 + j) = 4503599627370496 * binary64.one ∧
      Nat.pow 2 (j + 1) = binary64.one :=
    ⟨1073, by decide +kernel, by decide +kernel⟩
  have above : ¬ binary64.shift (1000000 * seconds m) 1 ≤ j := by
    intro low
    have below : 1000000 * seconds m / 1 < Nat.pow 2 (53 + j) := Format.shift_le_iff.mp low
    omega
  have spacing : Nat.pow 2 (j + 1) ∣ product m :=
    (Nat.pow_dvd_pow 2 (Nat.lt_of_not_ge above)).mul_left _
  rw [power] at spacing
  obtain ⟨k, hk⟩ := spacing
  rw [Nat.mul_comm] at hk
  have one := one_large
  rw [readBack_eq (k := k) (by omega) (by omega), hk]

/-- Less than 2^32 seconds are read back as they were: each of the two roundings moves them by less
than a quarter of a microsecond. -/
theorem readBack_of_lt (h : m < 4294967296000000) : readBack m = m := by
  have one := one_large
  have bound : m * binary64.one ≤ 4294967295999999 * binary64.one :=
    Nat.mul_le_mul_right _ (by omega)
  obtain ⟨above, below⟩ := seconds_error (m := m) 21 2097152 rfl (by decide) (by omega) (by omega)
  have small : 1000000 * seconds m / 1 * 2 < 9007199254740992 * binary64.one := by omega
  have spacing := spacing_mul_le 1 2 rfl (by decide) small
  obtain ⟨above', below'⟩ := Format.rounded_error binary64 (1000000 * seconds m) Nat.one_pos
  rw [← product] at above' below'
  exact readBack_eq (by omega) (by omega)

/-- Less than 2^33 seconds are read back as they were, too, if there are more than 2^52
microseconds: the first rounding moves them by less than half a microsecond, and the second leads
back to the nearest whole number. -/
theorem readBack_of_between (low : 4503599627370496 < m) (high : m < 8589934592000000) :
    readBack m = m := by
  have one := one_large
  have bound : 4503599627370497 * binary64.one ≤ m * binary64.one :=
    Nat.mul_le_mul_right _ (by omega)
  have bound' : m * binary64.one ≤ 8589934591999999 * binary64.one :=
    Nat.mul_le_mul_right _ (by omega)
  obtain ⟨above, below⟩ := seconds_error (m := m) 20 1048576 rfl (by decide) (by omega) (by omega)
  have small : 1000000 * seconds m / 1 * 1 < 9007199254740992 * binary64.one := by omega
  have spacing := spacing_mul_le 0 1 rfl (by decide) small
  obtain ⟨above', below'⟩ := Format.rounded_error binary64 (1000000 * seconds m) Nat.one_pos
  rw [← product, product_eq_readBack (by omega)] at above' below'
  refine Nat.le_antisymm (Nat.le_of_lt_succ ?_) (Nat.le_of_lt_succ ?_)
  · refine Nat.lt_of_mul_lt_mul_right (a := binary64.one) ?_
    rw [Nat.succ_mul]
    omega
  · refine Nat.lt_of_mul_lt_mul_right (a := binary64.one) ?_
    rw [Nat.succ_mul]
    omega

/-- A product below 2^52 leads to a neighbour at most. -/
theorem readBack_near (small : 1000000 * seconds m < 4503599627370496 * binary64.one) :
    readBack m ≤ m + 1 ∧ m ≤ readBack m + 1 := by
  have one := one_large
  obtain ⟨-, below⟩ := near_microseconds m
  obtain ⟨-, below'⟩ := near_seconds m
  have bound : m * binary64.one < 4503599627370500 * binary64.one := by omega
  have digits : m < 4503599627370500 := Nat.lt_of_mul_lt_mul_right bound
  obtain ⟨above, below⟩ := seconds_error (m := m) 20 1048576 rfl (by decide) (by omega) (by omega)
  have small' : 1000000 * seconds m / 1 * 2 < 9007199254740992 * binary64.one := by omega
  have spacing := spacing_mul_le 1 2 rfl (by decide) small'
  obtain ⟨above', below'⟩ := Format.rounded_error binary64 (1000000 * seconds m) Nat.one_pos
  rw [← product] at above' below'
  have whole : readBack m * (2 * binary64.one) ≤ 2 * product m + binary64.one :=
    Nat.div_mul_le_self _ _
  have next : 2 * product m + binary64.one < (readBack m + 1) * (2 * binary64.one) :=
    Nat.lt_mul_of_div_lt (Nat.lt_succ_self _) (by omega)
  rw [Nat.mul_left_comm] at whole next
  rw [Nat.succ_mul (readBack m)] at next
  constructor
  · refine Nat.le_of_lt_succ (Nat.lt_of_mul_lt_mul_right (a := binary64.one) ?_)
    rw [Nat.succ_mul, Nat.succ_mul]
    omega
  · refine Nat.le_of_lt_succ (Nat.lt_of_mul_lt_mul_right (a := binary64.one) ?_)
    rw [Nat.succ_mul, Nat.succ_mul]
    omega

/-- Microseconds are off by one part in 2^51 at most. -/
theorem readBack_error (m : Nat) :
    2251799813685248 * readBack m ≤ 2251799813685248 * m + m ∧
      2251799813685248 * m ≤ 2251799813685248 * readBack m + m := by
  rcases Nat.lt_or_ge m 4294967296000000 with short | long
  · rw [readBack_of_lt short]
    omega
  · have one := one_large
    obtain ⟨above, below⟩ := near_microseconds m
    obtain ⟨above', below'⟩ := near_seconds m
    obtain ⟨above'', below''⟩ := near_product m
    rcases Nat.lt_or_ge (1000000 * seconds m) (4503599627370496 * binary64.one) with small | large
    · -- Below 2^52 the product need not be whole, but it is still less than a whole one off.
      obtain ⟨near, near'⟩ := readBack_near small
      omega
    · rw [product_eq_readBack large] at above'' below''
      constructor
      · refine Nat.le_of_mul_le_mul_right (c := binary64.one) ?_ (by omega)
        rw [Nat.add_mul, Nat.mul_assoc, Nat.mul_assoc]
        omega
      · refine Nat.le_of_mul_le_mul_right (c := binary64.one) ?_ (by omega)
        rw [Nat.add_mul, Nat.mul_assoc, Nat.mul_assoc]
        omega

/-! ## Through the operations -/

theorem exists_wide : ∃ bits, bits < 2045 ∧
    18446744073709551616000000 * binary64.one < Nat.pow 2 (53 + bits) :=
  ⟨1105, by decide, by decide +kernel⟩

theorem datum_ofInt {n : Int} (word : n.natAbs < 18446744073709551616) :
    (Binary64.ofInt n).datum = .finite (n < 0) (microseconds n.natAbs) := by
  obtain ⟨bits, wide, large⟩ := exists_wide
  have bound : n.natAbs * binary64.one ≤ 18446744073709551616000000 * binary64.one :=
    Nat.mul_le_mul_right _ (by omega)
  exact Binary64.datum_ofInt n wide (Nat.lt_of_le_of_lt bound large)

theorem datum_microsecondsPerSecond :
    microsecondsPerSecond.datum = .finite false (1000000 * binary64.one) := by
  rw [← microseconds_eq (by decide)]
  exact datum_ofInt (by decide)

/-- Both operations act on the units alone and leave the sign as it is. -/
theorem round_product {n : Int} (word : n.natAbs < 18446744073709551616) :
    (((Binary64.ofInt n).div microsecondsPerSecond).mul microsecondsPerSecond).round? =
      some (signedReadBack n) := by
  obtain ⟨bits, wide, large⟩ := exists_wide
  have one := one_large
  have bound : n.natAbs * binary64.one ≤ 18446744073709551615 * binary64.one :=
    Nat.mul_le_mul_right _ (by omega)
  obtain ⟨above, -⟩ := near_microseconds n.natAbs
  obtain ⟨above', -⟩ := near_seconds n.natAbs
  have positive : 0 < binary64.one := by omega
  have quotient : binary64.rounded (microseconds n.natAbs * binary64.one)
      (1000000 * binary64.one) = seconds n.natAbs :=
    Format.rounded_mul_right positive
  have back : seconds n.natAbs * (1000000 * binary64.one) =
      1000000 * seconds n.natAbs * binary64.one := by
    ring
  have whole : binary64.rounded (1000000 * seconds n.natAbs * binary64.one) binary64.one =
      product n.natAbs := by
    have scaled : binary64.rounded (1000000 * seconds n.natAbs * binary64.one) (1 * binary64.one) =
        product n.natAbs :=
      Format.rounded_mul_right positive
    rwa [Nat.one_mul] at scaled
  have divided := Binary64.datum_div (datum_ofInt word) datum_microsecondsPerSecond (by omega) wide
    (by rw [Nat.mul_div_mul_right _ _ positive]; omega)
  rw [quotient] at divided
  have multiplied := Binary64.datum_mul divided datum_microsecondsPerSecond wide
    (by rw [back, Nat.mul_div_cancel _ positive]; omega)
  rw [back, whole] at multiplied
  simp only [Binary64.round?, multiplied, Bool.bne_false, decide_eq_true_eq]
  rfl

theorem signedReadBack_error (n : Int) :
    2251799813685248 * (signedReadBack n - n).natAbs ≤ n.natAbs := by
  obtain ⟨above, below⟩ := readBack_error n.natAbs
  unfold signedReadBack
  split <;> omega

/-- Less than 2^32 seconds from the epoch, or less than 2^33 but more than 2^52 microseconds. -/
def IsNearEpoch (n : Int) : Prop :=
  n.natAbs < 4294967296000000 ∨ 4503599627370496 < n.natAbs ∧ n.natAbs < 8589934592000000

theorem IsNearEpoch.signedReadBack_eq {n : Int} (h : IsNearEpoch n) : signedReadBack n = n := by
  have same : readBack n.natAbs = n.natAbs :=
    h.elim readBack_of_lt fun between => readBack_of_between between.1 between.2
  unfold signedReadBack
  rw [same]
  split <;> omega

end Seconds

/-! ## Timestamps -/

theorem timestampOfSeconds?_epochSeconds {t u : Timestamp} (single : ¬ t.time.IsLeapSecond) :
    timestampOfSeconds? (epochSeconds t) = some u ↔
      u.IsWholeMicroseconds ∧ ¬ u.time.IsLeapSecond ∧
        u.toMicroseconds = Seconds.signedReadBack t.toMicroseconds := by
  have word : t.toMicroseconds.natAbs < 18446744073709551616 :=
    Nat.lt_trans (Timestamp.natAbs_toMicroseconds_lt single) (by decide)
  rw [timestampOfSeconds?_eq_some, epochSeconds, Seconds.round_product word, Option.some.injEq,
    eq_comm (a := Seconds.signedReadBack _)]

theorem ColumnPlan.encode_timestamp {c : ColumnPlan} (column : c.type.semantic = .timestamp)
    {t : Timestamp} (whole : t.IsWholeMicroseconds) :
    c.encode (.timestamp t) = .ok (some (.double (epochSeconds t))) := by
  rw [encode_value rfl]
  exact ⟨column, if_pos whole⟩

theorem ColumnPlan.decode_double {c : ColumnPlan} (column : c.type.semantic = .timestamp)
    {x : Binary64} {t : Timestamp} :
    c.decode (some (.double x)) = .ok (.timestamp t) ↔ timestampOfSeconds? x = some t := by
  rw [decode_some]
  cases found : timestampOfSeconds? x <;> simp [uncarry, column, found]

/-- **Timestamps through a column.** A timestamp of whole microseconds is always encoded, and the
seconds stand for microseconds at most one part in 2^51 away. Only the timestamp of these is decoded
from them, which near the epoch is the one that was encoded. -/
theorem Calendar.Timestamp.seconds_keep_microseconds {t : Timestamp}
    (whole : t.IsWholeMicroseconds) (single : ¬ t.time.IsLeapSecond) {c : ColumnPlan}
    (column : c.type.semantic = .timestamp) :
    ∃ x n, c.encode (.timestamp t) = .ok (some (.double x)) ∧
      2251799813685248 * (n - t.toMicroseconds).natAbs ≤ t.toMicroseconds.natAbs ∧
      (∀ u, c.decode (some (.double x)) = .ok (.timestamp u) ↔
        u.IsWholeMicroseconds ∧ ¬ u.time.IsLeapSecond ∧ u.toMicroseconds = n) ∧
      (Seconds.IsNearEpoch t.toMicroseconds →
        c.decode (some (.double x)) = .ok (.timestamp t)) := by
  have decoded : ∀ u, c.decode (some (.double (epochSeconds t))) = .ok (.timestamp u) ↔
      u.IsWholeMicroseconds ∧ ¬ u.time.IsLeapSecond ∧
        u.toMicroseconds = Seconds.signedReadBack t.toMicroseconds := by
    intro u
    rw [ColumnPlan.decode_double column, timestampOfSeconds?_epochSeconds single]
  refine ⟨epochSeconds t, Seconds.signedReadBack t.toMicroseconds,
    ColumnPlan.encode_timestamp column whole, Seconds.signedReadBack_error _, decoded, ?_⟩
  intro near
  exact (decoded t).mpr ⟨whole, single, near.signedReadBack_eq.symm⟩

/-- A column of timestamps that is never null. -/
def seenColumn : ColumnPlan :=
  ⟨"SEEN", "Seen", none, ⟨.timestamp, false⟩, .scalar .double, .epochSeconds, false, 1⟩

theorem sightingTime_kept :
    Seconds.IsNearEpoch sightingTime.toMicroseconds ∧
      ∃ x, seenColumn.encode (.timestamp sightingTime) = .ok (some (.double x)) ∧
        seenColumn.decode (some (.double x)) = .ok (.timestamp sightingTime) := by
  have near : Seconds.IsNearEpoch sightingTime.toMicroseconds := .inl (by decide +kernel)
  obtain ⟨x, -, encoded, -, -, kept⟩ := Calendar.Timestamp.seconds_keep_microseconds
    (t := sightingTime) (by decide) (by decide) (c := seenColumn) rfl
  exact ⟨near, x, encoded, kept near⟩

/-- 2106-02-07 06:28:16.000011, just after 2^32 seconds. -/
def lateTime : Calendar.Timestamp := ⟨⟨2106, 2, 7, by decide⟩, ⟨6, 28, 16, 11000, by decide⟩⟩

theorem lateTime_not_kept :
    lateTime.IsWholeMicroseconds ∧ ¬ lateTime.time.IsLeapSecond ∧
      ∃ x, seenColumn.encode (.timestamp lateTime) = .ok (some (.double x)) ∧
        seenColumn.decode (some (.double x)) ≠ .ok (.timestamp lateTime) ∧
        seenColumn.decode (some (.double x)) =
          .ok (.timestamp ⟨lateTime.date, ⟨6, 28, 16, 12000, by decide⟩⟩) := by
  refine ⟨by decide, by decide, epochSeconds lateTime,
    ColumnPlan.encode_timestamp rfl (by decide), ?_, ?_⟩
  · rw [Ne, ColumnPlan.decode_double rfl]
    decide +kernel
  · rw [ColumnPlan.decode_double rfl]
    decide +kernel

end Tablecast
