import Tablecast.Numeric.Shortest

/-!
# Layouts of numbers

How the shortest decimal of a number is written. A layout says which exponents are written
positionally; outside them a number is written as one digit, the others after a point, and an
exponent.
-/

namespace Tablecast.Numeric

structure Layout where
  /-- Exponents of the first digit for which the number is written positionally. -/
  positional : Int → Bool
  /-- A whole number written positionally ends in a point and a zero. -/
  pointZero : Bool
  /-- A positive exponent has a sign. -/
  plus : Bool
  /-- Of two equally near decimals the larger is taken, instead of the even one. -/
  tieUp : Bool

namespace Layout

/-- Every number positionally, a whole one without a point. -/
def plain : Layout := ⟨fun _ => true, false, false, true⟩

/-- Positional from 0.0001 to below 10^16. -/
def explicit : Layout := ⟨fun e => decide (-4 ≤ e) && decide (e < 16), true, false, true⟩

/-- The numbers of a text that is exchanged: positional from 0.00001 to below 10^16. -/
def exchange : Layout := ⟨fun e => decide (-5 ≤ e) && decide (e < 16), true, true, false⟩

/-- The digits of a whole number, or those before and after the point. -/
def positionalText (l : Layout) (digits : List Char) (exponent : Int) : List Char :=
  if 0 ≤ exponent then
    digits ++ List.replicate exponent.toNat '0' ++ if l.pointZero then ['.', '0'] else []
  else
    let point : Int := digits.length + exponent
    if 0 < point then digits.take point.toNat ++ '.' :: digits.drop point.toNat
    else ['0', '.'] ++ List.replicate (-point).toNat '0' ++ digits

def exponentText (l : Layout) (digits : List Char) (exponent : Int) : List Char :=
  let fraction := digits.drop 1
  digits.take 1 ++ (if fraction.isEmpty then [] else '.' :: fraction) ++ 'e' ::
    (if exponent < 0 then ['-'] else if l.plus then ['+'] else []) ++
    Nat.toDigits 10 exponent.natAbs

def decimalText (l : Layout) (d : Decimal10) : List Char :=
  let digits := Nat.toDigits 10 d.digits
  let first := d.exponent + digits.length - 1
  if l.positional first then l.positionalText digits d.exponent else l.exponentText digits first

def text (l : Layout) (f : Format) (bits : Nat) : String :=
  match f.datum bits with
  | .nan => "NaN"
  | .infinite negative => if negative then "-inf" else "inf"
  | .finite negative units =>
    let magnitude :=
      if units = 0 then l.positionalText ['0'] 0
      else l.decimalText (f.shortest l.tieUp (bits % f.signBit))
    .ofList (if negative then '-' :: magnitude else magnitude)

end Layout

def Binary32.text (l : Layout) (x : Binary32) : String := l.text binary32 x.bits.toNat

def Binary64.text (l : Layout) (x : Binary64) : String := l.text binary64 x.bits.toNat

end Tablecast.Numeric
