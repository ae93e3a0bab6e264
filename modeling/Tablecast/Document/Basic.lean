import Tablecast.Text.Blank

/-!
# Schema documents

The tables of some databases, each with the names that the code generated for it will carry.
-/

namespace Tablecast

structure Column where
  name : String
  fieldName : String
  /-- The type as the database declares it. -/
  databaseType : String
  nullable : Bool
  defaultValue : Option String
  comment : Option String
  deriving DecidableEq

/-- A reference from a column of the table to a row of another. -/
structure ForeignKey where
  fromColumn : String
  toClassName : String
  fieldName : String
  deriving DecidableEq

structure Table where
  name : String
  /-- The name of the generated record type. -/
  className : String
  /-- The name under which the registry lists the table. -/
  handleName : String
  comment : Option String
  columns : List Column
  foreignKeys : List ForeignKey
  deriving DecidableEq

structure Schema where
  name : String
  tables : List Table
  deriving DecidableEq

structure Database where
  name : String
  schemas : List Schema
  deriving DecidableEq

structure Document where
  databases : List Database
  deriving DecidableEq

/-- A table with the names of its schema and database. -/
structure PlacedTable where
  database : String
  schema : String
  table : Table
  deriving DecidableEq

def PlacedTable.location (p : PlacedTable) : String :=
  p.database ++ "." ++ p.schema ++ "." ++ p.table.name

def Schema.placed (database : String) (s : Schema) : List PlacedTable :=
  s.tables.map fun t => ⟨database, s.name, t⟩

def Database.placed (d : Database) : List PlacedTable := d.schemas.flatMap (·.placed d.name)

/-- Every table of the document in the order of declaration. -/
def Document.placed (d : Document) : List PlacedTable := d.databases.flatMap Database.placed

/-- The database fills the column itself: its default is the current time, in any letter case and
between any blanks. -/
def Column.isDatabaseGenerated (c : Column) : Bool :=
  match c.defaultValue with
  | none => false
  | some value => (Text.trim value.toList).map Char.toLower = "current_timestamp()".toList

end Tablecast
