import Tablecast.Document.Basic
import Tablecast.Document.Error

/-!
# Consistency of documents

A document is consistent if its required names are there, the names generated from it do not
collide, and every foreign key starts at a column of its table and leads to a declared type. Tables
are checked in order, each with its columns and foreign keys; the targets of foreign keys come
last, so that a table may refer to a later one. The first problem is reported.
-/

namespace Tablecast

def require (value : String) (text : Required) (location : String) :
    Except DocumentError Unit :=
  if Text.isVacant value then .error (.inconsistent (.missing text location)) else .ok ()

/-- The names that the members of a table have taken so far. -/
structure MemberNames where
  columns : List String
  /-- Generated field names with the names they come from. -/
  fields : List (String × String)

namespace MemberNames

def claimField (names : MemberNames) (fieldName location : String) :
    Except DocumentError MemberNames :=
  match names.fields.lookup (Naming.field fieldName) with
  | some existing => .error (.inconsistent (.fieldCollision existing fieldName location))
  | none => .ok { names with fields := (Naming.field fieldName, fieldName) :: names.fields }

def addColumn (location : String) (names : MemberNames) (c : Column) :
    Except DocumentError MemberNames := do
  let place := location ++ "." ++ c.name
  require c.name .columnName place
  require c.fieldName .fieldName place
  require c.databaseType .databaseType place
  if names.columns.contains c.name then .error (.inconsistent (.duplicateColumn place))
  else claimField { names with columns := c.name :: names.columns } c.fieldName location

def addForeignKey (table location : String) (names : MemberNames) (k : ForeignKey) :
    Except DocumentError MemberNames := do
  let place := location ++ "." ++ k.fieldName
  require k.fieldName .foreignKeyFieldName place
  require k.toClassName .toClassName place
  if names.columns.contains k.fromColumn then names.claimField k.fieldName location
  else .error (.danglingForeignKey table k.fromColumn)

end MemberNames

/-- The names that the tables of a document have taken so far. -/
structure TableNames where
  types : List String
  constants : List String

namespace TableNames

def claimType (names : TableNames) (typeName location : String) :
    Except DocumentError TableNames :=
  if names.types.contains typeName then
    .error (.inconsistent (.duplicateType typeName location))
  else .ok { names with types := typeName :: names.types }

/-- A handle becomes a constant next to the registry. -/
def claimHandle (names : TableNames) (handle location : String) :
    Except DocumentError TableNames :=
  if Naming.constant handle = Naming.registry then
    .error (.inconsistent (.reservedHandle handle location))
  else if names.constants.contains (Naming.constant handle) then .error (.duplicateHandle handle)
  else .ok { names with constants := Naming.constant handle :: names.constants }

def addTable (names : TableNames) (p : PlacedTable) : Except DocumentError TableNames := do
  let t := p.table
  let location := p.location
  require t.name .tableName location
  require t.className .className location
  require t.handleName .handleName location
  let names ← names.claimType t.className location
  let names ← names.claimHandle t.handleName location
  let members ← t.columns.foldlM (MemberNames.addColumn location) ⟨[], []⟩
  let _ ← t.foreignKeys.foldlM (MemberNames.addForeignKey t.name location) members
  pure names

end TableNames

def checkTarget (types : List String) (p : PlacedTable) (k : ForeignKey) :
    Except DocumentError Unit :=
  if types.contains k.toClassName then .ok ()
  else .error (.inconsistent (.undeclaredTarget k.toClassName (p.location ++ "." ++ k.fieldName)))

def checkTargets (types : List String) (p : PlacedTable) : Except DocumentError Unit :=
  p.table.foreignKeys.forM (checkTarget types p)

def Document.validate (d : Document) : Except DocumentError Unit := do
  let names ← d.placed.foldlM TableNames.addTable ⟨[], []⟩
  d.placed.forM (checkTargets names.types)

end Tablecast
