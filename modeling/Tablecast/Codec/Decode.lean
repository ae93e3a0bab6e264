import Tablecast.Codec.Encode

/-!
# From messages to records

Each column of the message's table is decoded in order, then each relationship whose number is
there. A field that is absent is zero, if its wire type has no presence, and otherwise null.
-/

namespace Tablecast

open Calendar Numeric

/-- Seconds since the epoch to the nearest microsecond, a half away from the epoch. -/
def timestampOfSeconds? (seconds : Binary64) : Option Timestamp := do
  Timestamp.ofMicroseconds? (← (seconds.mul microsecondsPerSecond).round?)

namespace ColumnPlan

/-- The value that a field of the message carries, if it is one of the column's family. -/
def uncarry (c : ColumnPlan) (w : WireValue) : Except Mismatch Value :=
  match c.type.semantic, w with
  | .shortInt, .int32 n =>
    if -32768 ≤ n.toInt ∧ n.toInt ≤ 32767 then .ok (.shortInt n.toInt16)
    else .error (.outOfRange n)
  | .int, .int32 n => .ok (.int n)
  | .longInt, .int64 n => .ok (.longInt n)
  | .decimal, .decimal d => .ok (.decimal d.toDecimal)
  | .float, .float x => .ok (.float x)
  | .double, .double x => .ok (.double x)
  | .string, .string s => .ok (.string s)
  | .bytes, .bytes b => .ok (.bytes b)
  | .date, .date d =>
    match Date.ofFields? d.year.toInt d.month.toNat d.day.toNat with
    | some date => .ok (.date date)
    | none => .error .invalidDate
  | .timestamp, .double seconds =>
    match timestampOfSeconds? seconds with
    | some t => .ok (.timestamp t)
    | none => .error (.outOfRangeTimestamp seconds)
  | _, w => .error (.wire w)

/-- What an absent field stands for. -/
def absent (c : ColumnPlan) : Except ConversionError Value :=
  if !c.wire.hasPresence then .ok c.type.semantic.zero
  else if c.type.nullable then .ok .null
  else .error (.missingValue c.fieldName)

def decode (c : ColumnPlan) : Option WireValue → Except ConversionError Value
  | none => c.absent
  | some w =>
    match c.uncarry w with
    | .ok v => .ok v
    | .error found => .error (.mismatch c.fieldName c.type.semantic found)

end ColumnPlan

/-- The values of a record, from the fields of a message. -/
def decodeFields (fields : List (Nat × WireValue)) (columns : List ColumnPlan) :
    Except ConversionError (List (String × Value)) :=
  Keyed.collect ColumnPlan.fieldName (fun c => (c.decode (fields.lookup c.tag)).map some)
    columns []

/-- The related records, from what each nested message became. -/
def decodeRelationships (nested : List (Nat × Except ConversionError Record))
    (relationships : List RelationshipPlan) : Except ConversionError (List (String × Record)) :=
  Keyed.collect (fun r => r.field.fieldName) (fun r => (nested.lookup r.tag).sequence)
    relationships []

mutual

def Message.decode (p : Plan) : Message → Except ConversionError Record
  | ⟨name, fields, messages⟩ =>
    match p.carried? name with
    | none => .error (.unknownMessage name)
    | some t => do
      let values ← decodeFields fields t.columns
      let related ← decodeRelationships (decodeNested p messages) t.relationships
      pure ⟨t.typeName, values, related⟩

/-- What each nested message becomes, whether its number is declared or not. -/
def decodeNested (p : Plan) :
    List (Nat × Message) → List (Nat × Except ConversionError Record)
  | [] => []
  | (tag, m) :: rest => (tag, m.decode p) :: decodeNested p rest

end

theorem lookup_decodeNested (p : Plan) (tag : Nat) (messages : List (Nat × Message)) :
    (decodeNested p messages).lookup tag = (messages.lookup tag).map (Message.decode p) := by
  induction messages with
  | nil => simp [decodeNested]
  | cons e rest ih =>
    obtain ⟨k, m⟩ := e
    by_cases h : tag = k
    · simp [decodeNested, h]
    · simp [decodeNested, List.lookup_cons, beq_false_of_ne h, ih]

end Tablecast
