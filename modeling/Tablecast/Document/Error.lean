import Tablecast.Json.Fault
import Tablecast.Naming

/-!
# What is wrong with a document
-/

namespace Tablecast

/-- Names and declarations that may not be blank. -/
inductive Required where
  | tableName
  | className
  | handleName
  | columnName
  | fieldName
  | databaseType
  | foreignKeyFieldName
  | toClassName
  deriving DecidableEq

def Required.name : Required → String
  | .tableName => "table name"
  | .className => "class_name"
  | .handleName => "handle_name"
  | .columnName => "column name"
  | .fieldName => "field_name"
  | .databaseType => "database_type"
  | .foreignKeyFieldName => "foreign key field_name"
  | .toClassName => "to_class_name"

/-- A document that contradicts itself. -/
inductive Inconsistency where
  | missing (text : Required) (location : String)
  | duplicateType (name location : String)
  /-- The constant of the handle would be the registry. -/
  | reservedHandle (handle location : String)
  | duplicateColumn (location : String)
  | fieldCollision (existing name location : String)
  | undeclaredTarget (target location : String)
  deriving DecidableEq

def Inconsistency.message : Inconsistency → String
  | .missing text location => "missing " ++ text.name ++ " at " ++ location
  | .duplicateType name location =>
    "duplicate generated type name: " ++ name ++ " (" ++ location ++ ")"
  | .reservedHandle handle location =>
    "handle " ++ handle ++ " collides with the registry static " ++ Naming.registry ++
      " (" ++ location ++ ")"
  | .duplicateColumn location => "duplicate column name: " ++ location
  | .fieldCollision existing name location =>
    "generated field names collide: " ++ existing ++ " and " ++ name ++ " (" ++ location ++ ")"
  | .undeclaredTarget target location =>
    "foreign key target type not declared: " ++ target ++ " (" ++ location ++ ")"

inductive DocumentError where
  | unknownType (declaration column : String)
  | danglingForeignKey (table column : String)
  | duplicateHandle (handle : String)
  /-- The text holds no document. -/
  | unreadable (fault : Json.Fault)
  | inconsistent (cause : Inconsistency)
  deriving DecidableEq

def DocumentError.message : DocumentError → String
  | .unknownType declaration column =>
    "unknown type `" ++ declaration ++ "` for column " ++ column
  | .danglingForeignKey table column =>
    "foreign key on " ++ table ++ " references missing column " ++ column
  | .duplicateHandle handle => "duplicate handle name: " ++ handle
  | .unreadable fault => "invalid schema document: " ++ fault.message
  | .inconsistent cause => "invalid schema document: " ++ cause.message

end Tablecast
