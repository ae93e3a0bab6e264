import Tablecast.Document.Basic
import Tablecast.Json.Tree

/-!
# Writing schema documents

The JSON form of a document has every member in order, null and empty ones too.
-/

namespace Tablecast

open Json

def optionalTree : Option String → Tree
  | none => .null
  | some s => .string s

def ForeignKey.tree (k : ForeignKey) : Tree :=
  .object [("from_column", .string k.fromColumn), ("to_class_name", .string k.toClassName),
    ("field_name", .string k.fieldName)]

def Column.tree (c : Column) : Tree :=
  .object [("name", .string c.name), ("field_name", .string c.fieldName),
    ("database_type", .string c.databaseType), ("nullable", .boolean c.nullable),
    ("default", optionalTree c.defaultValue), ("comment", optionalTree c.comment)]

def Table.tree (t : Table) : Tree :=
  .object [("name", .string t.name), ("class_name", .string t.className),
    ("handle_name", .string t.handleName), ("comment", optionalTree t.comment),
    ("columns", .list (t.columns.map Column.tree)),
    ("foreign_keys", .list (t.foreignKeys.map ForeignKey.tree))]

def Schema.tree (s : Schema) : Tree :=
  .object [("name", .string s.name), ("tables", .list (s.tables.map Table.tree))]

def Database.tree (d : Database) : Tree :=
  .object [("name", .string d.name), ("schemas", .list (d.schemas.map Schema.tree))]

namespace Document

def tree (d : Document) : Tree := .object [("databases", .list (d.databases.map Database.tree))]

def compact (d : Document) : String := .ofList d.tree.compact

def pretty (d : Document) : String := .ofList (d.tree.pretty 0)

end Document

end Tablecast
