import Tablecast.FieldType
import Tablecast.Text.Blank

/-!
# Type declarations

Reads the type that a database declares for a column, such as `NUMBER(10,2)` or `long raw`. Letter
case and the amount of white space do not matter. A declaration belongs to the first family one of
whose names it begins with; whatever follows the name is ignored, except in numeric declarations.
-/

namespace Tablecast.Declaration

open Text

/-- The words of a declaration with single spaces between them, in small letters. Only ASCII letters
are lowered. Of the others the Kelvin sign alone would become an ASCII letter, and the dotted
capital I one with a mark behind it; neither can complete the name of a family. -/
def normalize (declaration : List Char) : List Char :=
  ([' '].intercalate (words declaration)).map Char.toLower

/-- What a declared type says about the values. -/
inductive Family where
  | numeric
  | other (semantic : Semantic)

def families : List (String × Family) := [
  ("number", .numeric),
  ("float", .other .float), ("binary_float", .other .float),
  ("binary_double", .other .double),
  ("varchar2", .other .string), ("nvarchar2", .other .string), ("char", .other .string),
  ("nchar", .other .string), ("clob", .other .string), ("nclob", .other .string),
  ("timestamp", .other .timestamp),
  ("date", .other .date),
  ("blob", .other .bytes), ("raw", .other .bytes), ("long raw", .other .bytes)]

def family? (normal : List Char) : Option Family :=
  (families.find? fun f => f.1.toList.isPrefixOf normal).map Prod.snd

/-- A decimal numeral without sign. -/
def digits? (s : List Char) : Option Nat :=
  if s.isEmpty || !s.all Char.isDigit then none
  else some (s.foldl (fun n c => 10 * n + (c.toNat - '0'.toNat)) 0)

/-- A precision: a numeral below 2^32, with an optional plus. -/
def precision? (s : List Char) : Option Nat :=
  let magnitude := match s with
    | '+' :: rest => digits? rest
    | _ => digits? s
  magnitude.filter (· < 0x100000000)

/-- A scale: a numeral of 32 bits with an optional sign. -/
def scale? (s : List Char) : Option Int :=
  match s with
  | '-' :: rest => ((digits? rest).filter (· ≤ 0x80000000)).map fun n => -(n : Int)
  | '+' :: rest => ((digits? rest).filter (· < 0x80000000)).map Int.ofNat
  | _ => ((digits? s).filter (· < 0x80000000)).map Int.ofNat

/-- What follows the first `(`, up to the next `)`; none without such a pair. -/
def argumentList? (normal : List Char) : Option (List Char) :=
  match normal.dropWhile (· ≠ '(') with
  | [] => none
  | _ :: inner => if ')' ∈ inner then some (inner.takeWhile (· ≠ ')')) else none

/-- Precision and scale, each if it is a numeral that fits. A lone precision has scale zero. -/
structure Arguments where
  precision : Option Nat
  scale : Option Int

def arguments? (normal : List Char) : Option Arguments :=
  (argumentList? normal).map fun inner =>
    match (pieces (· == ',') inner).map trim with
    | [p] => ⟨precision? p, some 0⟩
    | [p, s] => ⟨precision? p, scale? s⟩
    | p :: _ => ⟨precision? p, none⟩
    | [] => ⟨none, none⟩

/-- The narrowest integer for a precision, if there are no places after the point. -/
def Arguments.semantic (a : Arguments) : Semantic :=
  if a.scale.any (0 < ·) then .decimal
  else
    match a.precision with
    | none => .decimal
    | some p =>
      if p ≤ 4 then .shortInt else if p ≤ 9 then .int else if p ≤ 18 then .longInt else .decimal

def numericSemantic (normal : List Char) : Semantic :=
  match arguments? normal with
  | none => .decimal
  | some a => a.semantic

/-- Numeric columns that identify a row are plain integers whatever their precision. -/
def isIdentifier (column : String) : Bool := ['I', 'D'].isSuffixOf column.toList

/-- The family of values declared for a column; none for a declaration of no known family. -/
def semantic? (declaration column : String) : Option Semantic :=
  let normal := normalize declaration.toList
  match family? normal with
  | none => none
  | some (.other s) => some s
  | some .numeric => some (if isIdentifier column then .int else numericSemantic normal)

end Tablecast.Declaration
