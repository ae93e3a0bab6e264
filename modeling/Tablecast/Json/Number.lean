import Tablecast.Json.Fault
import Tablecast.Json.Text

/-!
# Numbers of a JSON text

A document holds no numbers, so one is read only to be named in a fault. A whole number of 64 bits
is an integer. Any other number is a binary one: its digits are kept while they fit 64 bits, then
scaled by a power of ten, each step rounded.
-/

namespace Tablecast.Json

open Numeric

/-- Takes digits into the significand as long as it stays below 2^64, and returns the digits that
are left. -/
def absorb : Nat → List Char → Nat × List Char
  | significand, [] => (significand, [])
  | significand, c :: digits =>
    let next := 10 * significand + (c.toNat - 48)
    if next < 0x10000000000000000 then absorb next digits else (significand, c :: digits)

def powerOfTen (n : Nat) : Binary64 := .ofRatio false (Nat.pow 10 n) 1

/-- A number that is not negative times a power of ten; none if it is too large. Powers beyond
10^308 are applied in steps of that size. -/
def scaleByTen? (x : Binary64) (exponent : Int) : Option Binary64 :=
  if exponent.natAbs ≤ 308 then
    if 0 ≤ exponent then
      let scaled := x.mul (powerOfTen exponent.natAbs)
      if scaled = .infinite false then none else some scaled
    else some (x.div (powerOfTen exponent.natAbs))
  else if x = .zero false then some x
  else if 0 ≤ exponent then none
  else scaleByTen? (x.div (powerOfTen 308)) (exponent + 308)
termination_by exponent.natAbs
decreasing_by omega

def signed (negative : Bool) (x : Binary64) : Binary64 := if negative then x.neg else x

def scaledNumber (negative : Bool) (significand : Nat) (exponent : Int) : Except Fault Binary64 :=
  match scaleByTen? (.ofInt significand) exponent with
  | some x => .ok (signed negative x)
  | none => .error .numberOutOfRange

def splitDigits (s : List Char) : List Char × List Char :=
  (s.takeWhile Char.isDigit, s.dropWhile Char.isDigit)

/-- Digits must stand here. -/
def requireDigits (s : List Char) : Except Fault (List Char × List Char) :=
  match splitDigits s, s with
  | ([], _), [] => .error .endInValue
  | ([], _), _ => .error .invalidNumber
  | (digits, rest), _ => .ok (digits, rest)

def digitsValue (digits : List Char) : Nat :=
  digits.foldl (fun n c => 10 * n + (c.toNat - 48)) 0

/-- The exponent behind its letter. One that does not fit 32 bits makes the number zero, or too
large if it is positive and the number is not zero. -/
def readExponent (negative : Bool) (significand : Nat) (exponent : Int) (s : List Char) :
    Except Fault (Binary64 × List Char) := do
  let (down, s) := match s with
    | '+' :: s => (false, s)
    | '-' :: s => (true, s)
    | _ => (false, s)
  let (digits, rest) ← requireDigits s
  let power := digitsValue digits
  if power < 0x80000000 then
    let x ← scaledNumber negative significand (if down then exponent - power else exponent + power)
    pure (x, rest)
  else if significand ≠ 0 ∧ !down then .error .numberOutOfRange
  else pure (signed negative (.zero false), rest)

/-- What may follow the digits: an exponent or the end of the number. -/
def readTail (negative : Bool) (significand : Nat) (exponent : Int) (s : List Char) :
    Except Fault (Binary64 × List Char) :=
  match s with
  | 'e' :: rest | 'E' :: rest => readExponent negative significand exponent rest
  | _ => do pure (← scaledNumber negative significand exponent, s)

/-- A whole number that fits: from -2^63 to below 2^64, and no negative zero. -/
def wholeNumber (negative : Bool) (n : Nat) : Found :=
  if !negative then .integer n
  else if 0 < n ∧ n ≤ 0x8000000000000000 then .integer (-n)
  else .number (signed true (.ofInt n))

/-- Reads a number whose minus sign, if any, has been taken. -/
def readNumber (negative : Bool) (s : List Char) : Except Fault (Found × List Char) := do
  let (digits, rest) ← requireDigits s
  if digits.head? = some '0' ∧ 1 < digits.length then .error .invalidNumber
  else
    let (significand, dropped) := absorb 0 digits
    match rest with
    | '.' :: fraction =>
      let (places, rest) ← requireDigits fraction
      let (significand', ignored) := absorb significand places
      let exponent : Int := dropped.length - (places.length - ignored.length : Nat)
      let (x, rest) ← readTail negative significand' exponent rest
      pure (.number x, rest)
    | 'e' :: _ | 'E' :: _ =>
      let (x, rest) ← readTail negative significand dropped.length rest
      pure (.number x, rest)
    | _ =>
      if dropped.isEmpty then pure (wholeNumber negative significand, rest)
      else
        let x ← scaledNumber negative significand dropped.length
        pure (.number x, rest)

end Tablecast.Json
