/-!
# Sets of code points

Character properties are tables in increasing order. A look-up stops at the first entry that
starts beyond the code point it looks for.
-/

namespace Tablecast.Text

/-- Ranges of code points in increasing order, both ends included. -/
abbrev CodeRanges := List (Nat × Nat)

def CodeRanges.contains : CodeRanges → Nat → Bool
  | [], _ => false
  | (first, last) :: rest, n => decide (first ≤ n) && (decide (n ≤ last) || contains rest n)

/-- Every `step`-th code point from `first` to `last`. A step of two covers the blocks in which
capital and small letters alternate. -/
structure CodeRun where
  first : Nat
  last : Nat
  step : Nat

def CodeRun.contains (r : CodeRun) (n : Nat) : Bool :=
  decide (r.first ≤ n) && decide (n ≤ r.last) && (n - r.first) % r.step == 0

/-- Runs of code points in increasing order, none of which starts inside another. -/
abbrev CodeRuns := List CodeRun

def CodeRuns.contains : CodeRuns → Nat → Bool
  | [], _ => false
  | r :: rest, n => decide (r.first ≤ n) && (r.contains n || contains rest n)

end Tablecast.Text
