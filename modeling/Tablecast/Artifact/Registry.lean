import Tablecast.Artifact.Model

/-!
# The registry

One constant for each table, and a static that lists them by handle.
-/

namespace Tablecast

open Text

namespace TablePlan

def constantName (t : TablePlan) : String := Naming.constant t.handleName

/-- The constant of a table, behind the table's comment and its place in the database. -/
def constantLines (t : TablePlan) : List String :=
  commentLines t.comment "///" ++
  ["/// Handle for `" ++ t.schemaName ++ "." ++ t.storageName ++ "` in database `" ++
      t.databaseName ++ "`.",
    "pub const " ++ t.constantName ++ ": " ++ t.accessorName ++ " = " ++ t.accessorName ++ ";"]

def registryEntry (t : TablePlan) : String :=
  "    (" ++ quote t.handleName ++ ", &" ++ t.constantName ++ "),"

end TablePlan

def Plan.registryLines (p : Plan) : List String :=
  p.tables.flatMap TablePlan.constantLines ++
  ["", "/// Every table handle, keyed by handle name.",
    "pub static " ++ Naming.registry ++ ": &[(&str, &(dyn TableAccessor + Sync))] = &["] ++
  p.tables.map TablePlan.registryEntry ++
  ["];"]

end Tablecast
