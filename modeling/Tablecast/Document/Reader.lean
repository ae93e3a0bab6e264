import Tablecast.Document.Basic
import Tablecast.Json.Shape

/-!
# Reading schema documents

Lists and flags that are left out are empty and unset; texts that may be null may also be left out
of an object.
-/

namespace Tablecast

open Json

def ForeignKey.shape : Shape ForeignKey where
  title := "struct ForeignKey"
  initial := ⟨"", "", ""⟩
  members := [
    .of "from_column" .refused readString fun k v => { k with fromColumn := v },
    .of "to_class_name" .refused readString fun k v => { k with toClassName := v },
    .of "field_name" .refused readString fun k v => { k with fieldName := v }]

def Column.shape : Shape Column where
  title := "struct Column"
  initial := ⟨"", "", "", false, none, none⟩
  members := [
    .of "name" .refused readString fun c v => { c with name := v },
    .of "field_name" .refused readString fun c v => { c with fieldName := v },
    .of "database_type" .refused readString fun c v => { c with databaseType := v },
    .of "nullable" .initial readBoolean fun c v => { c with nullable := v },
    .of "default" .null readOptional fun c v => { c with defaultValue := v },
    .of "comment" .null readOptional fun c v => { c with comment := v }]

def Table.shape : Shape Table where
  title := "struct Table"
  initial := ⟨"", "", "", none, [], []⟩
  members := [
    .of "name" .refused readString fun t v => { t with name := v },
    .of "class_name" .refused readString fun t v => { t with className := v },
    .of "handle_name" .refused readString fun t v => { t with handleName := v },
    .of "comment" .null readOptional fun t v => { t with comment := v },
    .of "columns" .initial (readList Column.shape.read) fun t v => { t with columns := v },
    .of "foreign_keys" .initial (readList ForeignKey.shape.read) fun t v =>
      { t with foreignKeys := v }]

def Schema.shape : Shape Schema where
  title := "struct Schema"
  initial := ⟨"", []⟩
  members := [
    .of "name" .refused readString fun d v => { d with name := v },
    .of "tables" .initial (readList Table.shape.read) fun d v => { d with tables := v }]

def Database.shape : Shape Database where
  title := "struct Database"
  initial := ⟨"", []⟩
  members := [
    .of "name" .refused readString fun d v => { d with name := v },
    .of "schemas" .initial (readList Schema.shape.read) fun d v => { d with schemas := v }]

def Document.shape : Shape Document where
  title := "struct SchemaDocument"
  initial := ⟨[]⟩
  members := [
    .of "databases" .refused (readList Database.shape.read) fun d v => { d with databases := v }]

/-- The document that a JSON text holds, or the first fault of the text. -/
def Document.parse (text : String) : Except Fault Document := Document.shape.readAll text.toList

end Tablecast
