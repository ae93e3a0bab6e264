import Tablecast.Artifact.Identifier
import Tablecast.Plan.Basic
import Tablecast.Text.Comment
import Tablecast.Text.Quoted

/-!
# The model of a table

For each table a record type, its conversions to and from the message that carries it, and an
accessor that answers for the names in the database. Columns come first, then relationships, in
the order of the plan, in every part.
-/

namespace Tablecast

open Artifact Text

namespace Artifact

def margin : String := "    "

/-- Lines one level further in; an empty line stays empty. -/
def indent (lines : List String) : List String :=
  lines.map fun line => if line = "" then "" else margin ++ line

/-- Lines between braces, one level further in than the head. -/
def block (head : String) (body : List String) : List String :=
  (head ++ " \x7b") :: indent body ++ ["\x7d"]

def optionOf (type : String) : String := "Option<" ++ type ++ ">"

end Artifact

def Semantic.modelType : Semantic → String
  | .shortInt => "i16"
  | .int => "i32"
  | .longInt => "i64"
  | .decimal => "Decimal"
  | .float => "f32"
  | .double => "f64"
  | .string => "String"
  | .date => "NaiveDate"
  | .timestamp => "NaiveDateTime"
  | .bytes => "Vec<u8>"

/-- The type of a column in the record. -/
def FieldType.modelType (t : FieldType) : String :=
  if t.nullable then optionOf t.semantic.modelType else t.semantic.modelType

/-- The type of a relationship in the record. -/
def RelationshipPlan.modelType (r : RelationshipPlan) : String :=
  let related := "Related<" ++ r.field.targetType ++ ">"
  if r.field.nullable then optionOf related else related

/-- Values of the family are copied when they are read; all others must be cloned. -/
def Semantic.isPlain : Semantic → Bool
  | .string | .bytes => false
  | _ => true

def CompositeKind.encoder : CompositeKind → String
  | .decimal => "decimal_to_wire"
  | .date => "date_to_wire"

def CompositeKind.decoder : CompositeKind → String
  | .decimal => "decimal_from_wire"
  | .date => "date_from_wire"

namespace ColumnPlan

def ident (c : ColumnPlan) : String := fieldIdent c.fieldName

/-- The field of the record, behind the comment of the column. -/
def fieldLines (c : ColumnPlan) : List String :=
  commentLines c.comment (margin ++ "///") ++
    [margin ++ "pub " ++ c.ident ++ ": " ++ c.type.modelType ++ ","]

/-- The carried form of the column of `self`. -/
def carried (c : ColumnPlan) : String :=
  let source := "self." ++ c.ident
  match c.conversion with
  | .copy => if c.type.semantic.isPlain then source else source ++ ".clone()"
  | .widen => if c.type.nullable then source ++ ".map(i32::from)" else "i32::from(" ++ source ++ ")"
  | .composite kind =>
    if c.type.nullable then source ++ ".as_ref().map(support::" ++ kind.encoder ++ ")"
    else "Some(support::" ++ kind.encoder ++ "(&" ++ source ++ "))"
  | .epochSeconds =>
    if c.type.nullable then source ++ ".as_ref().map(support::timestamp_to_wire)"
    else "support::timestamp_to_wire(&" ++ source ++ ")"

def encodeLine (c : ColumnPlan) : String := "message." ++ c.ident ++ " = " ++ c.carried ++ ";"

/-- The value in memory of a carried one. -/
def uncarried (c : ColumnPlan) (source : String) : String :=
  match c.conversion with
  | .copy => source
  | .widen => "support::short_from_wire(" ++ source ++ ")?"
  | .composite kind => "support::" ++ kind.decoder ++ "(&" ++ source ++ ")?"
  | .epochSeconds => "support::timestamp_from_wire(" ++ source ++ ")?"

end ColumnPlan

namespace Artifact

/-- An assignment that is made if the message holds the field. -/
def guarded (ident assigned : String) : List String :=
  block ("if let Some(v) = message." ++ ident) ["value." ++ ident ++ " = " ++ assigned ++ ";"]

end Artifact

namespace ColumnPlan

/-- A composite column that may not be null is refused when it is missing. -/
def decodeLines (c : ColumnPlan) : List String :=
  if c.type.nullable then guarded c.ident ("Some(" ++ c.uncarried "v" ++ ")")
  else
    match c.conversion with
    | .composite _ =>
      ["let Some(v) = message." ++ c.ident ++ " else \x7b"] ++
      indent ["return Err(support::missing_field(" ++ quote (Naming.field c.fieldName) ++ "));"] ++
      ["\x7d;", "value." ++ c.ident ++ " = " ++ c.uncarried "v" ++ ";"]
    | _ => ["value." ++ c.ident ++ " = " ++ c.uncarried ("message." ++ c.ident) ++ ";"]

end ColumnPlan

namespace RelationshipPlan

def ident (r : RelationshipPlan) : String := fieldIdent r.field.fieldName

def fieldLine (r : RelationshipPlan) : String :=
  margin ++ "pub " ++ r.ident ++ ": " ++ r.modelType ++ ","

/-- A related record travels only if it is loaded. -/
def encodeLines (r : RelationshipPlan) : List String :=
  let source := "self." ++ r.ident ++
    if r.field.nullable then ".as_ref().and_then(Related::get)" else ".get()"
  let nested := if r.boxed then "Box::new(related.to_proto())" else "related.to_proto()"
  block ("if let Some(related) = " ++ source)
    ["message." ++ r.ident ++ " = Some(" ++ nested ++ ");"]

def decodeLines (r : RelationshipPlan) : List String :=
  let source := if r.boxed then "*v" else "v"
  let loaded := "Related::loaded(" ++ r.field.targetType ++ "::try_from(" ++ source ++ ")?)"
  guarded r.ident (if r.field.nullable then "Some(" ++ loaded ++ ")" else loaded)

end RelationshipPlan

namespace TablePlan

/-- The name of the accessor type. -/
def accessorName (t : TablePlan) : String := t.typeName ++ "Table"

def recordLines (t : TablePlan) : List String :=
  commentLines t.comment "///" ++
  ["#[derive(Debug, Clone, Default, PartialEq)]", "pub struct " ++ t.typeName ++ " \x7b"] ++
  t.columns.flatMap ColumnPlan.fieldLines ++
  t.relationships.map RelationshipPlan.fieldLine ++
  ["\x7d"]

/-- The constructor and the conversion to a message. -/
def encoderLines (t : TablePlan) : List String :=
  block ("impl " ++ t.typeName) (
    block "pub fn new() -> Self" ["Self::default()"] ++
    [""] ++
    block ("pub fn to_proto(&self) -> " ++ t.messageName) (
      ["let mut message = " ++ t.messageName ++ "::default();"] ++
      t.columns.map ColumnPlan.encodeLine ++
      t.relationships.flatMap RelationshipPlan.encodeLines ++
      ["message"]))

/-- The conversion from a message, which may fail. -/
def decoderLines (t : TablePlan) : List String :=
  block ("impl TryFrom<" ++ t.messageName ++ "> for " ++ t.typeName) (
    ["type Error = support::WireError;", ""] ++
    block ("fn try_from(message: " ++ t.messageName ++ ") -> Result<Self, Self::Error>") (
      ["let mut value = Self::new();"] ++
      t.columns.flatMap ColumnPlan.decodeLines ++
      t.relationships.flatMap RelationshipPlan.decodeLines ++
      ["Ok(value)"]))

/-- A field's name in messages beside its column's name in the database. -/
def namePair (c : ColumnPlan) : String :=
  "(" ++ quote (Naming.field c.fieldName) ++ ", " ++ quote c.storageName ++ "),"

def generatedColumns (t : TablePlan) : List ColumnPlan := t.columns.filter (·.databaseGenerated)

def accessorLines (t : TablePlan) : List String :=
  ["#[derive(Debug, Clone, Copy, Default)]", "pub struct " ++ t.accessorName ++ ";", ""] ++
  block ("impl TableAccessor for " ++ t.accessorName) (
    block "fn table_name(&self) -> &'static str" [quote t.storageName] ++
    [""] ++
    block "fn schema_name(&self) -> &'static str" [quote t.schemaName] ++
    [""] ++
    block "fn fields(&self) -> &'static [(&'static str, &'static str)]" (
      ["&["] ++ indent (t.columns.map namePair) ++ ["]"]) ++
    [""] ++
    block "fn database_generated(&self) -> &'static [&'static str]"
      ["&[" ++ ", ".intercalate (t.generatedColumns.map fun c => quote c.storageName) ++ "]"])

/-- All that the model holds for one table. -/
def modelLines (t : TablePlan) : List String :=
  t.recordLines ++ [""] ++ t.encoderLines ++ [""] ++ t.decoderLines ++ [""] ++ t.accessorLines

end TablePlan

end Tablecast
