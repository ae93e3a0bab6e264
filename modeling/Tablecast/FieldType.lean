/-!
# Field types

What a column holds, whatever database declared it.
-/

namespace Tablecast

/-- The families of values. -/
inductive Semantic where
  | shortInt
  | int
  | longInt
  | decimal
  | float
  | double
  | string
  | date
  | timestamp
  | bytes
  deriving DecidableEq

def Semantic.name : Semantic → String
  | .shortInt => "short_int"
  | .int => "int"
  | .longInt => "long_int"
  | .decimal => "decimal"
  | .float => "float"
  | .double => "double"
  | .string => "string"
  | .date => "date"
  | .timestamp => "timestamp"
  | .bytes => "bytes"

/-- A family of values, with or without null. -/
structure FieldType where
  semantic : Semantic
  nullable : Bool
  deriving DecidableEq

end Tablecast
