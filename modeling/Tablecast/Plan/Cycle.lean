import Tablecast.Plan.Basic

/-!
# Cycles of relationships

A relationship lies on a cycle if its target type leads back to its owner. Such a field must be
held behind a pointer, and no other one needs to be.
-/

namespace Tablecast.Plan

/-- The types that the relationships of a type lead to. -/
def targets (p : Plan) (typeName : String) : List String :=
  match p.table? typeName with
  | none => []
  | some t => t.relationships.map fun r => r.field.targetType

def relationshipCount (p : Plan) : Nat := (p.tables.flatMap TablePlan.relationships).length

/-- Visits the types of the frontier and those they lead to, depth first. The fuel bounds the
types still to be taken from the frontier. -/
def visit (p : Plan) : Nat → List String → List String → List String
  | 0, visited, _ => visited
  | _ + 1, visited, [] => visited
  | n + 1, visited, t :: frontier =>
    if visited.contains t then p.visit n visited frontier
    else p.visit n (t :: visited) (p.targets t ++ frontier)

/-- The type and all it leads to. A type enters the frontier at the start or by a relationship of
a type visited once, which bounds the search. -/
def reachable (p : Plan) (typeName : String) : List String :=
  p.visit (p.relationshipCount + 1) [] [typeName]

def reaches (p : Plan) (source target : String) : Bool := (p.reachable source).contains target

/-- Boxes exactly the relationships of a table that lie on a cycle. -/
def boxTable (p : Plan) (t : TablePlan) : TablePlan :=
  { t with relationships := t.relationships.map fun r =>
      { r with boxed := p.reaches r.field.targetType t.typeName } }

def boxCycles (p : Plan) : Plan := ⟨p.tables.map p.boxTable⟩

@[simp] theorem boxTable_typeName (p : Plan) (t : TablePlan) :
    (p.boxTable t).typeName = t.typeName := rfl

@[simp] theorem boxTable_columns (p : Plan) (t : TablePlan) :
    (p.boxTable t).columns = t.columns := rfl

@[simp] theorem boxTable_fields (p : Plan) (t : TablePlan) :
    (p.boxTable t).relationships.map RelationshipPlan.field =
      t.relationships.map RelationshipPlan.field := by
  simp [boxTable]

@[simp] theorem boxTable_tags (p : Plan) (t : TablePlan) : (p.boxTable t).tags = t.tags := by
  simp [boxTable, TablePlan.tags]

end Tablecast.Plan
