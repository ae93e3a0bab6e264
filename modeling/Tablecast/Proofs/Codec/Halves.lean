import Tablecast.Proofs.Codec.Column

/-!
# Decimals in two halves

The unscaled word of a decimal is wider than any field of a message, so a message carries it in two
halves, of which the high one keeps the sign. Split and put together again, no decimal and no pair
of halves changes.

* `Decimal.SplitsInto`: what the halves stand for, in integers;
* `Decimal.NarrowsExactly`, `DecimalWire.WidensExactly`: the halves by shifts of words, none of
  which overflows;
* `Decimal.halves_rejoin`: both directions.
-/

namespace Tablecast

/-- The high half counts whole words of the low one, and the scale is the same. -/
structure Decimal.SplitsInto (d : Decimal) (w : DecimalWire) : Prop where
  unscaled : d.unscaled.toInt = w.hi.toInt * 2 ^ 64 + w.lo.toNat
  scale : d.scale = w.scale

/-- The low half is the lower end of the word. The high half is the word shifted down with its sign,
and narrowing what is left by the shift to a half does not change its value. -/
structure Decimal.NarrowsExactly (d : Decimal) : Prop where
  low : d.toWire.lo.toBitVec = d.unscaled.setWidth 64
  high : d.toWire.hi.toBitVec = (d.unscaled.sshiftRight 64).setWidth 64
  high_fits : d.toWire.hi.toInt = (d.unscaled.sshiftRight 64).toInt

/-- The word is the high half widened with its sign and shifted up, with the low half in the place
that the shift leaves free. Shifting up pushes nothing out of the word. -/
structure DecimalWire.WidensExactly (w : DecimalWire) : Prop where
  joined : w.toDecimal.unscaled =
    w.hi.toBitVec.signExtend 128 <<< 64 ||| w.lo.toBitVec.setWidth 128
  free : (w.hi.toBitVec.signExtend 128 <<< 64) &&& w.lo.toBitVec.setWidth 128 = 0
  high_fits : (w.hi.toBitVec.signExtend 128 <<< 64).toInt = w.hi.toInt * 2 ^ 64

/-! ## Two halves as one word -/

theorem toInt_halves (hi lo : BitVec 64) : (hi ++ lo).toInt = hi.toInt * 2 ^ 64 + lo.toNat := by
  rw [BitVec.toInt_append]
  simp only [beq_iff_eq, OfNat.ofNat_ne_zero, if_false]
  omega

/-- A half that is shifted up has zeros behind it. -/
theorem signExtend_shiftLeft_half (hi : BitVec 64) : hi.signExtend 128 <<< 64 = hi ++ 0#64 := by
  apply BitVec.eq_of_getLsbD_eq
  intro i bound
  simp only [BitVec.getLsbD_shiftLeft, BitVec.getLsbD_append, BitVec.getLsbD_signExtend]
  by_cases low : i < 64
  · simp [low]
  · have inside : i - 64 < 64 := by omega
    have wide : i - 64 < 128 := by omega
    simp [low, inside, wide, bound]

theorem setWidth_half (lo : BitVec 64) : lo.setWidth 128 = 0#64 ++ lo :=
  BitVec.setWidth_eq_append (by decide)

/-! ## From halves to the decimal -/

namespace DecimalWire

variable (w : DecimalWire)

theorem splitsInto : w.toDecimal.SplitsInto w where
  unscaled := toInt_halves w.hi.toBitVec w.lo.toBitVec
  scale := rfl

theorem toWire_toDecimal : w.toDecimal.toWire = w := by
  have high : (w.hi.toBitVec ++ w.lo.toBitVec).extractLsb' 64 64 = w.hi.toBitVec :=
    BitVec.extractLsb'_append_eq_left
  have low : (w.hi.toBitVec ++ w.lo.toBitVec).extractLsb' 0 64 = w.lo.toBitVec :=
    BitVec.extractLsb'_append_eq_right
  rw [toDecimal, Decimal.toWire, high, low, Int64.ofBitVec_toBitVec]

theorem widensExactly : w.WidensExactly where
  joined := by
    rw [signExtend_shiftLeft_half, setWidth_half, BitVec.or_append, BitVec.or_zero, BitVec.zero_or]
    rfl
  free := by
    rw [signExtend_shiftLeft_half, setWidth_half, BitVec.and_append, BitVec.and_zero,
      BitVec.zero_and]
    rfl
  high_fits := by
    rw [signExtend_shiftLeft_half, toInt_halves, Int64.toInt_toBitVec]
    simp

end DecimalWire

/-! ## From the decimal to its halves -/

namespace Decimal

variable (d : Decimal)

theorem splitsInto_toWire : d.SplitsInto d.toWire := by
  have whole := d.toWire.splitsInto
  rwa [d.toDecimal_toWire] at whole

theorem narrowsExactly : d.NarrowsExactly where
  low := by
    rw [BitVec.setWidth_eq_extractLsb' (by decide)]
    rfl
  high := by
    apply BitVec.eq_of_getLsbD_eq
    intro i bound
    have inside : 64 + i < 128 := by omega
    have wide : ¬128 ≤ i := by omega
    simp [toWire, BitVec.getLsbD_sshiftRight, bound, inside, wide]
  high_fits := by
    have whole := d.splitsInto_toWire.unscaled
    have rest := d.toWire.lo.toNat_lt
    rw [BitVec.toInt_sshiftRight, Int.shiftRight_eq_div_pow]
    omega

end Decimal

/-- **Halves rejoin.** A decimal is split into halves that stand for its unscaled number exactly,
and they are put together to the same decimal. Any two halves are put together to the number that
they stand for, which is split into the same halves. No step of either way overflows. -/
theorem Decimal.halves_rejoin :
    (∀ d : Decimal, d.SplitsInto d.toWire ∧ d.toWire.toDecimal = d ∧ d.NarrowsExactly) ∧
      ∀ w : DecimalWire, w.toDecimal.SplitsInto w ∧ w.toDecimal.toWire = w ∧ w.WidensExactly := by
  constructor
  · intro d
    exact ⟨d.splitsInto_toWire, d.toDecimal_toWire, d.narrowsExactly⟩
  · intro w
    exact ⟨w.splitsInto, w.toWire_toDecimal, w.widensExactly⟩

/-- The sign goes with the high half only. -/
example : (⟨-1, 4⟩ : Decimal).toWire = ⟨-1, 0xFFFFFFFFFFFFFFFF, 4⟩ := by decide

end Tablecast
