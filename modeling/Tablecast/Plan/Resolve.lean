import Tablecast.Declaration
import Tablecast.Document.Consistency
import Tablecast.Plan.Cycle

/-!
# From documents to plans

Columns and foreign keys of a table are numbered from 1 in the order of declaration, columns
first. A table resolved by itself boxes only references to its own type; a whole document boxes
every relationship on a cycle.
-/

namespace Tablecast

def Column.resolve (c : Column) : Except DocumentError FieldType :=
  match Declaration.semantic? c.databaseType c.name with
  | some semantic => .ok ⟨semantic, c.nullable⟩
  | none => .error (.unknownType c.databaseType c.name)

def Column.plan (c : Column) (type : FieldType) (tag : Nat) : ColumnPlan where
  storageName := c.name
  fieldName := c.fieldName
  comment := c.comment
  type
  wire := type.wire
  conversion := type.conversion
  databaseGenerated := c.isDatabaseGenerated
  tag

/-- Columns numbered from `tag` on. -/
def planColumns : Nat → List Column → Except DocumentError (List ColumnPlan)
  | _, [] => .ok []
  | tag, c :: rest => do
    let type ← c.resolve
    let plans ← planColumns (tag + 1) rest
    pure (c.plan type tag :: plans)

/-- A foreign key may be null if its column may. Of two columns with one name the later counts. -/
def ForeignKey.resolve (table : String) (types : List (String × FieldType)) (k : ForeignKey) :
    Except DocumentError Relationship :=
  match types.reverse.lookup k.fromColumn with
  | some type => .ok ⟨k.fieldName, k.toClassName, k.fromColumn, type.nullable⟩
  | none => .error (.danglingForeignKey table k.fromColumn)

def Table.relationships (t : Table) (types : List (String × FieldType)) :
    Except DocumentError (List Relationship) :=
  t.foreignKeys.mapM (ForeignKey.resolve t.name types)

/-- Relationships numbered from `tag` on; those to `owner` itself are boxed. -/
def planRelationships (owner : String) : Nat → List Relationship → List RelationshipPlan
  | _, [] => []
  | tag, r :: rest => ⟨r, tag, r.targetType = owner⟩ :: planRelationships owner (tag + 1) rest

def PlacedTable.resolve (p : PlacedTable) : Except DocumentError TablePlan := do
  let t := p.table
  let columns ← planColumns 1 t.columns
  let relationships ← t.relationships (columns.map fun c => (c.storageName, c.type))
  pure {
    databaseName := p.database
    schemaName := p.schema
    storageName := t.name
    typeName := t.className
    handleName := t.handleName
    comment := t.comment
    columns
    relationships := planRelationships t.className (columns.length + 1) relationships }

/-- The plan of a consistent document all of whose types are known. -/
def Document.resolve (d : Document) : Except DocumentError Plan := do
  d.validate
  let tables ← d.placed.mapM PlacedTable.resolve
  pure (Plan.mk tables).boxCycles

end Tablecast
