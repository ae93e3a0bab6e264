import Tablecast.Codec.Error
import Tablecast.Codec.Record
import Tablecast.Plan.Basic

/-!
# From records to messages

Each column of the record's table is encoded in order, then each relationship that is loaded. Null
leaves a field out. The first failure in that order is the result.
-/

namespace Tablecast

open Calendar Numeric

def microsecondsPerSecond : Binary64 := .ofInt 1000000

/-- Seconds since the epoch: the microseconds, rounded to a floating point number, divided by a
million. -/
def epochSeconds (t : Timestamp) : Binary64 :=
  (Binary64.ofInt t.toMicroseconds).div microsecondsPerSecond

def Calendar.Date.toWire (d : Date) : DateWire := ⟨.ofInt d.year, .ofNat d.month, .ofNat d.day⟩

namespace ColumnPlan

/-- The carried form of a value of the column's family; none for null. -/
def carry (c : ColumnPlan) : Value → Except ConversionError (Option WireValue)
  | .null => .ok none
  | .shortInt n => .ok (some (.int32 n.toInt32))
  | .int n => .ok (some (.int32 n))
  | .longInt n => .ok (some (.int64 n))
  | .decimal d => .ok (some (.decimal d.toWire))
  | .float x => .ok (some (.float x))
  | .double x => .ok (some (.double x))
  | .string s => .ok (some (.string s))
  | .date d => .ok (some (.date d.toWire))
  | .timestamp t =>
    if t.IsWholeMicroseconds then .ok (some (.double (epochSeconds t)))
    else .error (.mismatch c.fieldName c.type.semantic (.subMicrosecond t))
  | .bytes b => .ok (some (.bytes b))

def encode (c : ColumnPlan) (v : Value) : Except ConversionError (Option WireValue) :=
  match v.semantic? with
  | none => if c.type.nullable then .ok none else .error (.nullValue c.fieldName)
  | some semantic =>
    if semantic = c.type.semantic then c.carry v
    else .error (.mismatch c.fieldName c.type.semantic (.family semantic))

end ColumnPlan

/-- The fields of a message, from the values of a record. -/
def encodeFields (value : String → Value) (columns : List ColumnPlan) :
    Except ConversionError (List (Nat × WireValue)) :=
  Keyed.collect ColumnPlan.tag (fun c => c.encode (value c.fieldName)) columns []

/-- The nested messages, from what each related record became. -/
def encodeRelationships (related : List (String × Except ConversionError Message))
    (relationships : List RelationshipPlan) : Except ConversionError (List (Nat × Message)) :=
  Keyed.collect RelationshipPlan.tag (fun r => (related.lookup r.field.fieldName).sequence)
    relationships []

mutual

def Record.encode (p : Plan) : Record → Except ConversionError Message
  | ⟨typeName, values, related⟩ =>
    match p.table? typeName with
    | none => .error (.unknownRecordType typeName)
    | some t => do
      let fields ← encodeFields (Record.mk typeName values []).value t.columns
      let messages ← encodeRelationships (encodeRelated p related) t.relationships
      pure ⟨t.messageName, fields, messages⟩

/-- What each related record becomes, whether its field is declared or not. -/
def encodeRelated (p : Plan) :
    List (String × Record) → List (String × Except ConversionError Message)
  | [] => []
  | (fieldName, r) :: rest => (fieldName, r.encode p) :: encodeRelated p rest

end

theorem lookup_encodeRelated (p : Plan) (fieldName : String) (related : List (String × Record)) :
    (encodeRelated p related).lookup fieldName =
      (related.lookup fieldName).map (Record.encode p) := by
  induction related with
  | nil => simp [encodeRelated]
  | cons e rest ih =>
    obtain ⟨k, r⟩ := e
    by_cases h : fieldName = k
    · simp [encodeRelated, h]
    · simp [encodeRelated, List.lookup_cons, beq_false_of_ne h, ih]

end Tablecast
