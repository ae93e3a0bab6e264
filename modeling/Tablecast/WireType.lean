import Tablecast.FieldType

/-!
# Wire types

How a field travels in a message. A scalar without label is always there and stands for its zero
when it is left out; an optional scalar and a composite message show whether they are there.
-/

namespace Tablecast

inductive ScalarKind where
  | int32
  | int64
  | float
  | double
  | string
  | bytes
  deriving DecidableEq

def ScalarKind.name : ScalarKind → String
  | .int32 => "int32"
  | .int64 => "int64"
  | .float => "float"
  | .double => "double"
  | .string => "string"
  | .bytes => "bytes"

/-- Values of more than one part. -/
inductive CompositeKind where
  | decimal
  | date
  deriving DecidableEq

def CompositeKind.messageName : CompositeKind → String
  | .decimal => "DecimalProto"
  | .date => "DateProto"

inductive WireType where
  | scalar (kind : ScalarKind)
  | optional (kind : ScalarKind)
  | composite (kind : CompositeKind)
  deriving DecidableEq

namespace WireType

/-- The type as a field declares it, label included. -/
def declared : WireType → String
  | .scalar kind => kind.name
  | .optional kind => "optional " ++ kind.name
  | .composite kind => kind.messageName

/-- Absence can be told from zero. -/
def hasPresence : WireType → Bool
  | .scalar _ => false
  | .optional _ | .composite _ => true

end WireType

/-- What carries the values of a family. -/
def Semantic.carrier : Semantic → ScalarKind ⊕ CompositeKind
  | .shortInt | .int => .inl .int32
  | .longInt => .inl .int64
  | .float => .inl .float
  | .double | .timestamp => .inl .double
  | .string => .inl .string
  | .bytes => .inl .bytes
  | .decimal => .inr .decimal
  | .date => .inr .date

/-- Null needs an optional scalar; a composite message can be absent as it is. -/
def FieldType.wire (t : FieldType) : WireType :=
  match t.semantic.carrier with
  | .inl kind => if t.nullable then .optional kind else .scalar kind
  | .inr kind => .composite kind

/-- How a value moves between memory and wire. -/
inductive Conversion where
  | copy
  /-- A short integer travels widened and is narrowed again. -/
  | widen
  | composite (kind : CompositeKind)
  /-- A timestamp travels as seconds since the epoch. -/
  | epochSeconds
  deriving DecidableEq

def FieldType.conversion (t : FieldType) : Conversion :=
  match t.semantic with
  | .shortInt => .widen
  | .decimal => .composite .decimal
  | .date => .composite .date
  | .timestamp => .epochSeconds
  | .int | .longInt | .float | .double | .string | .bytes => .copy

end Tablecast
