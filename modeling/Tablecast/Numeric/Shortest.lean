import Tablecast.Numeric.Binary

/-!
# Shortest decimals

The decimal number with the fewest digits that reads back as a given binary one, and of those the
nearest to it. A decimal reads back if it lies between the midpoints to the two neighbouring
numbers; a midpoint itself reads back if the number's last bit is even.
-/

namespace Tablecast.Numeric

/-- `digits · 10 ^ exponent`. -/
structure Decimal10 where
  digits : Nat
  exponent : Int
  deriving DecidableEq

/-- The numbers that read back as one value, all counted in quarters of a unit. -/
structure Interval where
  low : Nat
  value : Nat
  high : Nat
  /-- The ends belong to the interval. -/
  closed : Bool

/-- Below a power of two the neighbours stand at half the distance. -/
def Format.interval (f : Format) (pattern : Nat) : Interval :=
  let value := 4 * f.units pattern
  let gap := Nat.pow 2 (f.spacing pattern)
  let isPower := pattern % f.binade = 0 ∧ f.binade < pattern
  { low := value - if isPower then gap else 2 * gap
    value
    high := value + 2 * gap
    closed := pattern % 2 = 0 }

/-- Whether `num / den` lies in the interval, whose ends are given over `den` too. -/
def Interval.admits (i : Interval) (factor candidate : Nat) : Bool :=
  if i.closed then decide (i.low * factor ≤ candidate) && decide (candidate ≤ i.high * factor)
  else decide (i.low * factor < candidate) && decide (candidate < i.high * factor)

/-- The multiple of `10 ^ exponent` in the interval that is nearest to the value. Of two equally
near ones `tieUp` takes the larger, and otherwise the even one wins. -/
def Interval.onGrid? (i : Interval) (quarters : Nat) (tieUp : Bool) (exponent : Int) :
    Option Nat :=
  let factor := Nat.pow 10 (-exponent).toNat
  let step := quarters * Nat.pow 10 exponent.toNat
  let below := i.value * factor / step
  let rest := i.value * factor % step
  let fromBelow := i.admits factor (below * step)
  let fromAbove := i.admits factor ((below + 1) * step)
  if fromBelow && fromAbove then
    if 2 * rest < step then some below
    else if step < 2 * rest then some (below + 1)
    else some (if tieUp || below % 2 = 1 then below + 1 else below)
  else if fromBelow then some below
  else if fromAbove then some (below + 1)
  else none

/-- Goes from the grid of `exponent` to ever finer ones. -/
def Interval.search (i : Interval) (quarters : Nat) (tieUp : Bool) : Nat → Int → Decimal10
  | 0, exponent => ⟨0, exponent⟩
  | n + 1, exponent =>
    match i.onGrid? quarters tieUp exponent with
    | some digits => ⟨digits, exponent⟩
    | none => i.search quarters tieUp n (exponent - 1)

/-- The shortest decimal of a positive finite pattern. The search starts on a grid wider than the
number, so it ends within the seventeen digits that always suffice and the few grids above. -/
def Format.shortest (f : Format) (tieUp : Bool) (pattern : Nat) : Decimal10 :=
  let magnitude : Int := (f.units pattern).log2 - f.scale
  (f.interval pattern).search (4 * f.one) tieUp 24 (magnitude * 30103 / 100000 + 2)

end Tablecast.Numeric
