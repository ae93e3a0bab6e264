import Tablecast.Artifact.Registry
import Tablecast.Settings.Basic

/-!
# The wire schema

One service for all tables, and for each table the message that carries its records and the two
messages that select them.
-/

namespace Tablecast

open Text

namespace Artifact

def wireMargin : String := "  "

/-- Lines between braces in the wire schema. -/
def wireBlock (head : String) (body : List String) : List String :=
  (head ++ " \x7b") :: body.map (wireMargin ++ ·) ++ ["\x7d"]

end Artifact

open Artifact

/-- A field of the message, behind the comment of the column. -/
def ColumnPlan.messageLines (c : ColumnPlan) : List String :=
  commentLines c.comment (wireMargin ++ "//") ++
    [wireMargin ++ c.wire.declared ++ " " ++ Naming.field c.fieldName ++ " = " ++
      toString c.tag ++ ";"]

def RelationshipPlan.messageLine (r : RelationshipPlan) : String :=
  wireMargin ++ r.messageName ++ " " ++ Naming.field r.field.fieldName ++ " = " ++
    toString r.tag ++ ";"

namespace TablePlan

def selectName (t : TablePlan) : String := "Select" ++ t.typeName

def streamName (t : TablePlan) : String := "Stream" ++ t.typeName

def requestName (t : TablePlan) : String := t.selectName ++ "Request"

def replyName (t : TablePlan) : String := t.selectName ++ "Reply"

/-- The message whose field numbers are those of the plan. -/
def messageLines (t : TablePlan) : List String :=
  commentLines t.comment "//" ++
  ["message " ++ t.messageName ++ " \x7b"] ++
  t.columns.flatMap ColumnPlan.messageLines ++
  t.relationships.map RelationshipPlan.messageLine ++
  ["\x7d"]

/-- The request and the reply of a selection. -/
def selectLines (t : TablePlan) : List String :=
  wireBlock ("message " ++ t.requestName) ["string request = 1;"] ++
  [""] ++
  wireBlock ("message " ++ t.replyName)
    ["repeated " ++ t.messageName ++ " objects = 1;", "string error_message = 2;"]

/-- A selection answered at once, and one answered record by record. -/
def rpcLines (t : TablePlan) : List String :=
  ["rpc " ++ t.selectName ++ " (" ++ t.requestName ++ ") returns (" ++ t.replyName ++ ");",
    "rpc " ++ t.streamName ++ " (" ++ t.requestName ++ ") returns (stream " ++ t.messageName ++
      ");"]

end TablePlan

def Settings.importLines (s : Settings) : List String :=
  if s.sharedImports.isEmpty then []
  else "" :: s.sharedImports.map fun file => "import " ++ quote file ++ ";"

def Settings.preambleLines (s : Settings) : List String :=
  ["syntax = \"proto3\";", "", "package " ++ s.protoPackage ++ ";"] ++ s.importLines

def Plan.wireSchemaLines (p : Plan) (s : Settings) : List String :=
  s.preambleLines ++
  [""] ++
  wireBlock ("service " ++ s.serviceName) (p.tables.flatMap TablePlan.rpcLines) ++
  p.tables.flatMap fun t => [""] ++ t.messageLines ++ [""] ++ t.selectLines

end Tablecast
