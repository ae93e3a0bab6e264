import Tablecast.Calendar.Timestamp
import Tablecast.Numeric.Layout
import Tablecast.Text.Quoted
import Tablecast.WireType

/-!
# Values in memory and on the wire

A record holds values by family, a message by carrier. Floating point numbers are told apart by
their bits.
-/

namespace Tablecast

open Calendar Numeric

/-- `unscaled · 10 ^ -scale`, where `unscaled` is a signed word. -/
structure Decimal where
  unscaled : BitVec 128
  scale : UInt32
  deriving DecidableEq

/-- A decimal as a message carries it: its word in two halves. -/
structure DecimalWire where
  hi : Int64
  lo : UInt64
  scale : UInt32
  deriving DecidableEq

def Decimal.toWire (d : Decimal) : DecimalWire where
  hi := .ofBitVec (d.unscaled.extractLsb' 64 64)
  lo := .ofBitVec (d.unscaled.extractLsb' 0 64)
  scale := d.scale

def DecimalWire.toDecimal (w : DecimalWire) : Decimal where
  unscaled := w.hi.toBitVec ++ w.lo.toBitVec
  scale := w.scale

/-- A date as a message carries it; it need not exist. -/
structure DateWire where
  year : Int32
  month : UInt32
  day : UInt32
  deriving DecidableEq

/-- The value of a field of a record. -/
inductive Value where
  | null
  | shortInt (n : Int16)
  | int (n : Int32)
  | longInt (n : Int64)
  | decimal (d : Decimal)
  | float (x : Binary32)
  | double (x : Binary64)
  | string (s : String)
  | date (d : Date)
  | timestamp (t : Timestamp)
  | bytes (b : List UInt8)
  deriving DecidableEq

def Value.semantic? : Value → Option Semantic
  | .null => none
  | .shortInt _ => some .shortInt
  | .int _ => some .int
  | .longInt _ => some .longInt
  | .decimal _ => some .decimal
  | .float _ => some .float
  | .double _ => some .double
  | .string _ => some .string
  | .date _ => some .date
  | .timestamp _ => some .timestamp
  | .bytes _ => some .bytes

/-- What an absent scalar without presence stands for. -/
def Semantic.zero : Semantic → Value
  | .shortInt => .shortInt 0
  | .int => .int 0
  | .longInt => .longInt 0
  | .decimal => .decimal ⟨0, 0⟩
  | .float => .float ⟨0⟩
  | .double => .double ⟨0⟩
  | .string => .string ""
  | .date => .date .epoch
  | .timestamp => .timestamp .epoch
  | .bytes => .bytes []

/-- The value of a field of a message. -/
inductive WireValue where
  | int32 (n : Int32)
  | int64 (n : Int64)
  | float (x : Binary32)
  | double (x : Binary64)
  | string (s : String)
  | bytes (b : List UInt8)
  | decimal (d : DecimalWire)
  | date (d : DateWire)
  deriving DecidableEq

/-- A value with its kind, as an error names it. -/
def WireValue.describe : WireValue → String
  | .int32 n => "Int32(" ++ toString n.toInt ++ ")"
  | .int64 n => "Int64(" ++ toString n.toInt ++ ")"
  | .float x => "Float(" ++ x.text .explicit ++ ")"
  | .double x => "Double(" ++ x.text .explicit ++ ")"
  | .string s => "String(" ++ Text.quote s ++ ")"
  | .bytes b => "Bytes([" ++ ", ".intercalate (b.map fun n => toString n.toNat) ++ "])"
  | .decimal d =>
    "Decimal(DecimalWire \x7b hi: " ++ toString d.hi.toInt ++ ", lo: " ++ toString d.lo.toNat ++
      ", scale: " ++ toString d.scale.toNat ++ " \x7d)"
  | .date d =>
    "Date(DateWire \x7b year: " ++ toString d.year.toInt ++ ", month: " ++
      toString d.month.toNat ++ ", day: " ++ toString d.day.toNat ++ " \x7d)"

end Tablecast
