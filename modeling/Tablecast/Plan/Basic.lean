import Tablecast.Document.Error
import Tablecast.WireType

/-!
# Generation plans

Every table with its columns and relationships resolved once: their types, how they travel, and
their numbers in the message. The artifacts and the codec read only the plan.
-/

namespace Tablecast

/-- A field backed by a column. -/
structure ColumnPlan where
  storageName : String
  fieldName : String
  comment : Option String
  type : FieldType
  wire : WireType
  conversion : Conversion
  databaseGenerated : Bool
  /-- The number of the field in the message. It has 32 bits where it is counted, so a table is
  taken to have fewer than 2 ^ 32 fields. -/
  tag : Nat
  deriving DecidableEq

/-- A field that refers to a row of another table. -/
structure Relationship where
  fieldName : String
  targetType : String
  fromColumn : String
  /-- The key column may be null. -/
  nullable : Bool
  deriving DecidableEq

structure RelationshipPlan where
  field : Relationship
  /-- The number of the field in the message, of 32 bits like those of the columns before it. -/
  tag : Nat
  /-- The target leads back to the owner, so the compiled message holds the field behind a
  pointer. -/
  boxed : Bool
  deriving DecidableEq

def RelationshipPlan.messageName (r : RelationshipPlan) : String :=
  Naming.message r.field.targetType

structure TablePlan where
  databaseName : String
  schemaName : String
  storageName : String
  typeName : String
  handleName : String
  comment : Option String
  columns : List ColumnPlan
  relationships : List RelationshipPlan
  deriving DecidableEq

namespace TablePlan

def messageName (t : TablePlan) : String := Naming.message t.typeName

/-- The numbers of the fields: columns first, then relationships. -/
def tags (t : TablePlan) : List Nat :=
  t.columns.map ColumnPlan.tag ++ t.relationships.map RelationshipPlan.tag

def column? (t : TablePlan) (fieldName : String) : Option ColumnPlan :=
  t.columns.find? fun c => c.fieldName = fieldName

def relationship? (t : TablePlan) (fieldName : String) : Option RelationshipPlan :=
  t.relationships.find? fun r => r.field.fieldName = fieldName

end TablePlan

structure Plan where
  tables : List TablePlan
  deriving DecidableEq

namespace Plan

def table? (p : Plan) (typeName : String) : Option TablePlan :=
  p.tables.find? fun t => t.typeName = typeName

/-- The table whose records a message carries. -/
def carried? (p : Plan) (messageName : String) : Option TablePlan :=
  p.tables.find? fun t => t.messageName = messageName

end Plan

end Tablecast
