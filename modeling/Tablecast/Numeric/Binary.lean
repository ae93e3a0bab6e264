/-!
# Binary floating point

The binary interchange formats, computed exactly. A finite number is a sign and a whole number of
*units*, the format's least positive number, so no exponent is ever negative. An operation takes
the exact quotient of two natural numbers and rounds it once, to the nearest number of the format
and in a tie to the even one.
-/

namespace Tablecast.Numeric

/-- A format by the widths of its two fields below the sign. -/
structure Format where
  fractionBits : Nat
  exponentBits : Nat

def binary32 : Format := ⟨23, 8⟩

def binary64 : Format := ⟨52, 11⟩

/-- What a bit pattern stands for. -/
inductive Datum where
  | nan
  | infinite (negative : Bool)
  | finite (negative : Bool) (units : Nat)
  deriving DecidableEq

/-- The quotient as a whole number, a half to the even neighbour. -/
def roundHalfEven (num den : Nat) : Nat :=
  let q := num / den
  let r := num % den
  if 2 * r < den then q else if den < 2 * r then q + 1 else q + q % 2

namespace Format

/-- The patterns that share an exponent. -/
def binade (f : Format) : Nat := Nat.pow 2 f.fractionBits

/-- One is two to this power units. -/
def scale (f : Format) : Nat := Nat.pow 2 (f.exponentBits - 1) - 2 + f.fractionBits

/-- The units of one. -/
def one (f : Format) : Nat := Nat.pow 2 f.scale

/-- The value of the sign bit in a pattern. -/
def signBit (f : Format) : Nat := Nat.pow 2 (f.exponentBits + f.fractionBits)

/-- The pattern of positive infinity: the first beyond all finite ones. -/
def infinity (f : Format) : Nat := (Nat.pow 2 f.exponentBits - 1) * f.binade

/-- How many binary places the numbers of a pattern's binade stand apart, in powers of a unit. -/
def spacing (f : Format) (pattern : Nat) : Nat := pattern / f.binade - 1

/-- The units of a finite pattern without sign. -/
def units (f : Format) (pattern : Nat) : Nat :=
  let fraction := pattern % f.binade
  if pattern / f.binade = 0 then fraction
  else (f.binade + fraction) * Nat.pow 2 (f.spacing pattern)

def datum (f : Format) (bits : Nat) : Datum :=
  let negative := decide (f.signBit ≤ bits)
  let pattern := bits % f.signBit
  if pattern < f.infinity then .finite negative (f.units pattern)
  else if pattern = f.infinity then .infinite negative
  else .nan

/-- The pattern nearest to `num / den` units. Patterns count upwards with the numbers they stand
for, so a carry out of the fraction lands where it should; what lies beyond the largest finite
number is infinite. -/
def nearest (f : Format) (num den : Nat) : Nat :=
  let shift := (num / den).log2 - f.fractionBits
  min (shift * f.binade + roundHalfEven num (den * Nat.pow 2 shift)) f.infinity

def withSign (f : Format) (negative : Bool) (pattern : Nat) : Nat :=
  if negative then f.signBit + pattern else pattern

end Format

/-- A number of the format `binary32`, told apart from others by its bits alone. -/
structure Binary32 where
  bits : UInt32
  deriving DecidableEq

/-- A number of the format `binary64`, told apart from others by its bits alone. -/
structure Binary64 where
  bits : UInt64
  deriving DecidableEq

namespace Binary64

def datum (x : Binary64) : Datum := binary64.datum x.bits.toNat

def ofPattern (negative : Bool) (pattern : Nat) : Binary64 :=
  ⟨(binary64.withSign negative pattern).toUInt64⟩

def nan : Binary64 := ⟨0x7FF8000000000000⟩

def infinite (negative : Bool) : Binary64 := ofPattern negative binary64.infinity

def zero (negative : Bool) : Binary64 := ofPattern negative 0

/-- The number nearest to `num / den`. -/
def ofRatio (negative : Bool) (num den : Nat) : Binary64 :=
  ofPattern negative (binary64.nearest (num * binary64.one) den)

def ofInt (n : Int) : Binary64 := ofRatio (n < 0) n.natAbs 1

def mul (x y : Binary64) : Binary64 :=
  match x.datum, y.datum with
  | .finite s m, .finite t n => ofPattern (s != t) (binary64.nearest (m * n) binary64.one)
  | .infinite s, .infinite t => infinite (s != t)
  | .infinite s, .finite t n => if n = 0 then nan else infinite (s != t)
  | .finite s m, .infinite t => if m = 0 then nan else infinite (s != t)
  | .nan, _ | _, .nan => nan

def div (x y : Binary64) : Binary64 :=
  match x.datum, y.datum with
  | .finite s m, .finite t n =>
    if n = 0 then (if m = 0 then nan else infinite (s != t))
    else ofPattern (s != t) (binary64.nearest (m * binary64.one) n)
  | .infinite s, .finite t _ => infinite (s != t)
  | .finite s _, .infinite t => zero (s != t)
  | .infinite _, .infinite _ | .nan, _ | _, .nan => nan

def neg (x : Binary64) : Binary64 := ⟨x.bits ^^^ 0x8000000000000000⟩

/-- The nearest whole number, a half away from zero; none for what is not finite. -/
def round? (x : Binary64) : Option Int :=
  match x.datum with
  | .finite negative units =>
    let whole : Nat := (2 * units + binary64.one) / (2 * binary64.one)
    some (if negative then -whole else whole)
  | _ => none

end Binary64

namespace Binary32

def datum (x : Binary32) : Datum := binary32.datum x.bits.toNat

end Binary32

end Tablecast.Numeric
