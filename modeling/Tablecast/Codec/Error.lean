import Tablecast.Codec.Value

/-!
# What keeps a value from being converted
-/

namespace Tablecast

open Calendar Numeric

/-- What was found in place of a value of the field's family. -/
inductive Mismatch where
  | family (semantic : Semantic)
  /-- A timestamp finer than a microsecond. -/
  | subMicrosecond (t : Timestamp)
  /-- An integer that is not short. -/
  | outOfRange (n : Int32)
  | invalidDate
  /-- Seconds that lead beyond the calendar. -/
  | outOfRangeTimestamp (seconds : Binary64)
  | wire (w : WireValue)
  deriving DecidableEq

def Mismatch.describe : Mismatch → String
  | .family semantic => semantic.name
  | .subMicrosecond t => "sub-microsecond timestamp " ++ t.text
  | .outOfRange n => "out-of-range " ++ toString n.toInt
  | .invalidDate => "invalid date"
  | .outOfRangeTimestamp seconds => "out-of-range timestamp " ++ seconds.text .plain
  | .wire w => w.describe

inductive ConversionError where
  | unknownRecordType (typeName : String)
  | unknownMessage (name : String)
  | nullValue (fieldName : String)
  | missingValue (fieldName : String)
  | mismatch (fieldName : String) (expected : Semantic) (found : Mismatch)
  deriving DecidableEq

def ConversionError.message (e : ConversionError) : String :=
  "conversion error: " ++
    match e with
    | .unknownRecordType typeName => "unknown record type: " ++ typeName
    | .unknownMessage name => "unknown wire message: " ++ name
    | .nullValue fieldName => "null value for non-null field " ++ fieldName
    | .missingValue fieldName => "missing value for non-null field " ++ fieldName
    | .mismatch fieldName expected found =>
      "field " ++ fieldName ++ " expects " ++ expected.name ++ ", found " ++ found.describe

end Tablecast
