import Tablecast.Calendar.Date
import Tablecast.Numeric.Binary
import Tablecast.Toml.Text

/-!
# Scalars of TOML

Truth values, numbers and moments are read for their form and range only. A reader returns what
follows the scalar.
-/

namespace Tablecast.Toml

/-- Digits with single underscores between them, which are dropped. -/
def takeDigits (isDigit : Char → Bool) : List Char → List Char × List Char
  | '_' :: c :: s =>
    if isDigit c then
      let (digits, rest) := takeDigits isDigit s
      (c :: digits, rest)
    else ([], '_' :: c :: s)
  | c :: s =>
    if isDigit c then
      let (digits, rest) := takeDigits isDigit s
      (c :: digits, rest)
    else ([], c :: s)
  | [] => ([], [])

/-- At least one digit, and no underscore before the first. -/
def readDigits (isDigit : Char → Bool) (s : List Char) : Option (List Char × List Char) :=
  match s with
  | c :: _ => if isDigit c then some (takeDigits isDigit s) else none
  | [] => none

def valueIn (radix : Nat) (digits : List Char) : Nat :=
  digits.foldl (fun n c => radix * n + (hexDigit? c).getD 0) 0

def isDigitOf (radix : Nat) (c : Char) : Bool := (hexDigit? c).any (· < radix)

/-- Digits of a power of two behind their mark; the number must fit 63 bits. -/
def skipRadix (radix : Nat) (s : List Char) : Option (List Char) := do
  let (digits, rest) ← readDigits (isDigitOf radix) s
  if valueIn radix digits < 0x8000000000000000 then some rest else none

/-- The digits before the point: a zero, or digits that do not begin with one. -/
def readWhole : List Char → Option (List Char × List Char)
  | '0' :: s => some (['0'], s)
  | s => readDigits Char.isDigit s

def readSign : List Char → Bool × List Char
  | '+' :: s => (false, s)
  | '-' :: s => (true, s)
  | s => (false, s)

def readExponent (s : List Char) : Option (Int × List Char) := do
  let (negative, s) := readSign s
  let (digits, rest) ← readDigits Char.isDigit s
  let n := valueIn 10 digits
  some (if negative then -(n : Int) else n, rest)

/-- The decimal number rounds to infinity. Exponents far outside the range need no arithmetic. -/
def overflows (digits : List Char) (exponent : Int) : Bool :=
  let n := valueIn 10 digits
  let magnitude := exponent + (Nat.toDigits 10 n).length
  if n = 0 ∨ magnitude < 300 then false
  else if 320 < magnitude then true
  else
    let num := n * Nat.pow 10 exponent.toNat
    let den := Nat.pow 10 (-exponent).toNat
    Numeric.Binary64.ofRatio false num den = .infinite false

/-- A number with a point or an exponent. A positive one may not be too large. -/
def skipFraction (negative : Bool) (whole : List Char) (s : List Char) : Option (List Char) := do
  let (places, s) ← match s with
    | '.' :: s => readDigits Char.isDigit s
    | s => some ([], s)
  let (exponent, rest) ← match s with
    | 'e' :: s | 'E' :: s => readExponent s
    | s => some (0, s)
  if !negative && overflows (whole ++ places) (exponent - places.length) then none else some rest

/-- The number fits 64 bits. -/
def isWord (negative : Bool) (n : Nat) : Bool :=
  if negative then n ≤ 0x8000000000000000 else n < 0x8000000000000000

def skipDecimal (s : List Char) : Option (List Char) := do
  let (negative, s) := readSign s
  let (whole, rest) ← readWhole s
  match rest with
  | '.' :: _ | 'e' :: _ | 'E' :: _ => skipFraction negative whole rest
  | _ => if isWord negative (valueIn 10 whole) then some rest else none

def skipNumber : List Char → Option (List Char)
  | '0' :: 'x' :: s => skipRadix 16 s
  | '0' :: 'o' :: s => skipRadix 8 s
  | '0' :: 'b' :: s => skipRadix 2 s
  | s => skipDecimal s

/-- Takes exactly `n` digits. -/
def readFixed (n : Nat) (s : List Char) : Option (Nat × List Char) :=
  let digits := s.take n
  if digits.length = n ∧ digits.all Char.isDigit then some (valueIn 10 digits, s.drop n) else none

/-- Two digits with a value between `low` and `high`. -/
def readPart (low high : Nat) (s : List Char) : Option (Nat × List Char) := do
  let (n, rest) ← readFixed 2 s
  if low ≤ n ∧ n ≤ high then some (n, rest) else none

def expect (c : Char) : List Char → Option (List Char)
  | [] => none
  | d :: s => if d = c then some s else none

def skipDate (s : List Char) : Option (List Char) := do
  let (year, s) ← readFixed 4 s
  let (month, s) ← readPart 1 12 (← expect '-' s)
  let (_, rest) ← readPart 1 (Calendar.daysInMonth year month) (← expect '-' s)
  some rest

/-- Hours, minutes and seconds, of which there may be 60, and a fraction. -/
def skipTime (s : List Char) : Option (List Char) := do
  let (_, s) ← readPart 0 23 s
  let (_, s) ← readPart 0 59 (← expect ':' s)
  let (_, s) ← readPart 0 60 (← expect ':' s)
  match s with
  | '.' :: c :: rest => some (if c.isDigit then rest.dropWhile Char.isDigit else s)
  | _ => some s

def skipOffset : List Char → Option (List Char)
  | 'Z' :: s | 'z' :: s => some s
  | '+' :: s | '-' :: s => do
    let (_, s) ← readPart 0 23 s
    let (_, s) ← readPart 0 59 (← expect ':' s)
    some s
  | s => some s

/-- A date, a date with a time and perhaps an offset, or a time. -/
def skipMoment (s : List Char) : Option (List Char) :=
  match skipDate s with
  | none => skipTime s
  | some rest =>
    match rest with
    | 'T' :: s | 't' :: s | ' ' :: s =>
      match skipTime s with
      | some rest => skipOffset rest
      | none => some rest
    | _ => some rest

def skipWord (word : String) (s : List Char) : Option (List Char) :=
  if word.toList.isPrefixOf s then some (s.drop word.length) else none

/-- Infinity and what is not a number. -/
def skipSpecial (s : List Char) : Option (List Char) :=
  let unsigned := (readSign s).2
  skipWord "inf" unsigned <|> skipWord "nan" unsigned

def skipScalar (s : List Char) : Option (List Char) :=
  skipWord "true" s <|> skipWord "false" s <|> skipMoment s <|> skipNumber s <|> skipSpecial s

end Tablecast.Toml
