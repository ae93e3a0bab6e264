import Tablecast.Proofs.Plan.Structure

/-!
# What resolving only hands on

Comments and the names of databases go into a plan as they are: nothing is decided by them. So two
documents that are the same without them have plans that are the same without them.

* `Plan.boxCycles_map`: the search for cycles reads types and relationships alone;
* `Document.plans_agree`: plans of documents that agree after an erasure agree after it;
* `Document.plans_agree_without_comments`, `Document.plans_agree_without_databaseNames`.
-/

namespace Tablecast

/-! ## Erasures -/

/-- A change that keeps what the search for cycles reads, and does not look at the boxes. -/
structure TablePlan.Erasure (g : TablePlan → TablePlan) : Prop where
  typeName : ∀ t, (g t).typeName = t.typeName
  relationships : ∀ t, (g t).relationships = t.relationships
  box : ∀ (t : TablePlan) (rs : List RelationshipPlan),
    g { t with relationships := rs } = { g t with relationships := rs }

namespace Plan

def map (g : TablePlan → TablePlan) (p : Plan) : Plan := ⟨p.tables.map g⟩

variable {g : TablePlan → TablePlan} (erasure : TablePlan.Erasure g)

include erasure

theorem targets_map (p : Plan) : (p.map g).targets = p.targets := by
  funext typeName
  have found : (p.map g).table? typeName = (p.table? typeName).map g := by
    simp only [table?, map, List.find?_map, Function.comp_def, erasure.typeName]
  rw [targets, targets, found]
  cases p.table? typeName with
  | none => rfl
  | some t => simp only [Option.map_some, erasure.relationships]

theorem relationshipCount_map (p : Plan) : (p.map g).relationshipCount = p.relationshipCount := by
  simp only [relationshipCount, map, List.flatMap_map, erasure.relationships]

theorem visit_map (p : Plan) (fuel : Nat) (visited frontier : List String) :
    (p.map g).visit fuel visited frontier = p.visit fuel visited frontier := by
  induction fuel generalizing visited frontier with
  | zero => rfl
  | succ fuel ih =>
    cases frontier with
    | nil => rfl
    | cons t frontier => simp only [visit, targets_map erasure, ih]

theorem reaches_map (p : Plan) (source target : String) :
    (p.map g).reaches source target = p.reaches source target := by
  rw [reaches, reaches, reachable, reachable, relationshipCount_map erasure, visit_map erasure]

theorem boxCycles_map (p : Plan) : (p.map g).boxCycles = p.boxCycles.map g := by
  have boxes (t : TablePlan) : (p.map g).boxTable (g t) = g (p.boxTable t) := by
    have boxed : (g t).relationships.map (fun r : RelationshipPlan =>
        { r with boxed := (p.map g).reaches r.field.targetType (g t).typeName }) =
        t.relationships.map fun r =>
          { r with boxed := p.reaches r.field.targetType t.typeName } := by
      simp only [erasure.relationships, erasure.typeName, reaches_map erasure]
    rw [boxTable, boxed]
    exact (erasure.box t _).symm
  simp only [boxCycles, map, List.map_map, Function.comp_def]
  exact congrArg Plan.mk (List.map_congr_left fun t _ => boxes t)

end Plan

/-- If each table can be erased before or after it is resolved, then documents that are the same
after the erasure have plans that are the same after it. -/
theorem Document.plans_agree {f : PlacedTable → PlacedTable} {g : TablePlan → TablePlan}
    (erasure : TablePlan.Erasure g) (resolve : ∀ x, (f x).resolve = x.resolve.map g)
    {d e : Document} {p q : Plan} (h : d.resolve = .ok p) (h' : e.resolve = .ok q)
    (same : d.placed.map f = e.placed.map f) : p.map g = q.map g := by
  have erased : ∀ {xs : List PlacedTable} {ts : List TablePlan},
      xs.mapM PlacedTable.resolve = .ok ts →
        (xs.map f).mapM PlacedTable.resolve = .ok (ts.map g) := by
    intro xs ts done
    rw [mapM_eq_ok, List.forall₂_map_left_iff, List.forall₂_map_right_iff]
    refine (mapM_eq_ok.mp done).imp fun x t resolved => ?_
    rw [resolve, resolved]
    rfl
  obtain ⟨-, tables, done, rfl⟩ := Document.resolve_eq_ok.mp h
  obtain ⟨-, tables', done', rfl⟩ := Document.resolve_eq_ok.mp h'
  have results : tables.map g = tables'.map g :=
    Except.ok.inj ((erased done).symm.trans (same ▸ erased done'))
  rw [← Plan.boxCycles_map erasure, ← Plan.boxCycles_map erasure]
  exact congrArg (fun tables => (Plan.mk tables).boxCycles) results

/-! ## Comments -/

def Column.withoutComment (c : Column) : Column := { c with comment := none }

def Table.withoutComments (t : Table) : Table :=
  { t with comment := none, columns := t.columns.map Column.withoutComment }

/-- The document without the comments of its tables and columns. -/
def Document.withoutComments (d : Document) : Document :=
  ⟨d.databases.map fun b =>
    { b with schemas := b.schemas.map fun s =>
      { s with tables := s.tables.map Table.withoutComments } }⟩

def PlacedTable.withoutComments (x : PlacedTable) : PlacedTable :=
  { x with table := x.table.withoutComments }

def ColumnPlan.withoutComment (c : ColumnPlan) : ColumnPlan := { c with comment := none }

def TablePlan.withoutComments (t : TablePlan) : TablePlan :=
  { t with comment := none, columns := t.columns.map ColumnPlan.withoutComment }

theorem TablePlan.erasure_comments : TablePlan.Erasure TablePlan.withoutComments :=
  ⟨fun _ => rfl, fun _ => rfl, fun _ _ => rfl⟩

theorem Document.placed_withoutComments (d : Document) :
    d.withoutComments.placed = d.placed.map PlacedTable.withoutComments := by
  simp [withoutComments, placed, Database.placed, Schema.placed, PlacedTable.withoutComments,
    List.map_flatMap, List.flatMap_map, Function.comp_def]

theorem planColumns_withoutComment (tag : Nat) (cs : List Column) :
    planColumns tag (cs.map Column.withoutComment) =
      (planColumns tag cs).map (List.map ColumnPlan.withoutComment) := by
  induction cs generalizing tag with
  | nil => rfl
  | cons c cs ih =>
    have resolve : c.withoutComment.resolve = c.resolve := rfl
    rw [List.map_cons, planColumns, planColumns, resolve, ih]
    cases c.resolve with
    | error e => rfl
    | ok type => cases planColumns (tag + 1) cs <;> rfl

theorem PlacedTable.resolve_withoutComments (x : PlacedTable) :
    x.withoutComments.resolve = x.resolve.map TablePlan.withoutComments := by
  have columns : planColumns 1 x.withoutComments.table.columns =
      (planColumns 1 x.table.columns).map (List.map ColumnPlan.withoutComment) :=
    planColumns_withoutComment 1 x.table.columns
  rw [resolve, resolve, columns]
  cases planColumns 1 x.table.columns with
  | error e => rfl
  | ok columns =>
    have types : (columns.map ColumnPlan.withoutComment).map (fun c => (c.storageName, c.type)) =
        columns.map fun c => (c.storageName, c.type) := by
      rw [List.map_map]
      rfl
    have relationships (types : List (String × FieldType)) :
        x.withoutComments.table.relationships types = x.table.relationships types := rfl
    simp only [Except.map, bind, Except.bind, types, relationships, List.length_map]
    cases x.table.relationships (columns.map fun c => (c.storageName, c.type)) <;> rfl

theorem Document.plans_agree_without_comments {d e : Document} {p q : Plan}
    (h : d.resolve = .ok p) (h' : e.resolve = .ok q)
    (same : d.withoutComments = e.withoutComments) :
    p.map TablePlan.withoutComments = q.map TablePlan.withoutComments := by
  apply Document.plans_agree TablePlan.erasure_comments PlacedTable.resolve_withoutComments h h'
  rw [← placed_withoutComments, ← placed_withoutComments, same]

/-! ## Names of databases -/

/-- The document without the names of its databases. -/
def Document.withoutDatabaseNames (d : Document) : Document :=
  ⟨d.databases.map fun b => { b with name := "" }⟩

def PlacedTable.withoutDatabaseName (x : PlacedTable) : PlacedTable := { x with database := "" }

def TablePlan.withoutDatabaseName (t : TablePlan) : TablePlan := { t with databaseName := "" }

theorem TablePlan.erasure_databaseName : TablePlan.Erasure TablePlan.withoutDatabaseName :=
  ⟨fun _ => rfl, fun _ => rfl, fun _ _ => rfl⟩

theorem Document.placed_withoutDatabaseNames (d : Document) :
    d.withoutDatabaseNames.placed = d.placed.map PlacedTable.withoutDatabaseName := by
  simp [withoutDatabaseNames, placed, Database.placed, Schema.placed,
    PlacedTable.withoutDatabaseName, List.map_flatMap, List.flatMap_map, Function.comp_def]

theorem PlacedTable.resolve_withoutDatabaseName (x : PlacedTable) :
    x.withoutDatabaseName.resolve = x.resolve.map TablePlan.withoutDatabaseName := by
  rw [resolve, resolve, withoutDatabaseName]
  simp only [bind, Except.bind]
  cases planColumns 1 x.table.columns with
  | error e => rfl
  | ok columns =>
    dsimp only
    cases x.table.relationships (columns.map fun c => (c.storageName, c.type)) <;> rfl

theorem Document.plans_agree_without_databaseNames {d e : Document} {p q : Plan}
    (h : d.resolve = .ok p) (h' : e.resolve = .ok q)
    (same : d.withoutDatabaseNames = e.withoutDatabaseNames) :
    p.map TablePlan.withoutDatabaseName = q.map TablePlan.withoutDatabaseName := by
  apply Document.plans_agree TablePlan.erasure_databaseName
    PlacedTable.resolve_withoutDatabaseName h h'
  rw [← placed_withoutDatabaseNames, ← placed_withoutDatabaseNames, same]

end Tablecast
