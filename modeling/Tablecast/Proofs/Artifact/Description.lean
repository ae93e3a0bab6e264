import Tablecast.Proofs.Artifact.Code

/-!
# Descriptions of tables

The model describes every constant by a line that names the table, its schema and its database. The
names go into this line as they are, so a line feed in one of them ends the comment, and what stands
behind it is code. Nothing else in an artifact depends on the name of a database.

* `Plan.codeOf_modelLines_eq`: where the code of descriptions stands in a model,
* `Document.databaseNames_hold_no_code_iff`: when the names of databases add no code.
-/

namespace Tablecast

open Artifact Text

/-- The line above the constant of a table. -/
def descriptionLine (schema table database : String) : String :=
  "/// Handle for `" ++ schema ++ "." ++ table ++ "` in database `" ++ database ++ "`."

/-- The description of every table is a comment as a whole. -/
def Document.DescribesInComments (d : Document) : Prop :=
  ∀ x ∈ d.placed, codeLines (descriptionLine x.schema x.table.name x.database) = []

theorem isLine_descriptionLine {schema table database : String} :
    IsLine (descriptionLine schema table database) ↔
      IsLine schema ∧ IsLine table ∧ IsLine database := by
  have signs : IsLine "/// Handle for `" ∧ IsLine "." ∧ IsLine "` in database `" ∧ IsLine "`." := by
    decide
  unfold descriptionLine
  simp only [isLine_append, signs, true_and, and_true, and_assoc]

theorem isComment_descriptionLine (schema table database : String) :
    isComment (descriptionLine schema table database) = true := by
  unfold descriptionLine
  simp only [String.append_assoc]
  exact isComment_append (by decide) _

theorem codeLines_descriptionLine {schema table database : String}
    (single : IsLine schema ∧ IsLine table ∧ IsLine database) :
    codeLines (descriptionLine schema table database) = [] :=
  codeLines_of_isComment (isLine_descriptionLine.mpr single) (isComment_descriptionLine _ _ _)

/-! ## Where descriptions stand -/

namespace TablePlan

variable (t : TablePlan)

def descriptionCode : List String :=
  codeLines (descriptionLine t.schemaName t.storageName t.databaseName)

/-- The code of a table's constant without its description. -/
def constantCode : List String :=
  codeLines ("pub const " ++ t.constantName ++ ": " ++ t.accessorName ++ " = " ++ t.accessorName ++
    ";")

theorem codeOf_constantLines_eq : codeOf t.constantLines = t.descriptionCode ++ t.constantCode := by
  simp only [constantLines, codeOf_append, codeOf_documentation, codeOf_cons, codeOf_nil,
    List.append_nil, List.nil_append]
  rfl

end TablePlan

/-- What stands in a model behind the constants. -/
def Plan.linesBehindConstants (p : Plan) : List String :=
  ["", "/// Every table handle, keyed by handle name.",
    "pub static " ++ Naming.registry ++ ": &[(&str, &(dyn TableAccessor + Sync))] = &["] ++
  p.tables.map TablePlan.registryEntry ++ ["];"] ++ p.tables.flatMap fun t => "" :: t.modelLines

theorem Plan.codeOf_modelLines_eq (p : Plan) (s : Settings) :
    codeOf (p.modelLines s) = codeOf ([marker, ""] ++ importLines s ++ [""]) ++
      ((p.tables.flatMap fun t => t.descriptionCode ++ t.constantCode) ++
        codeOf p.linesBehindConstants) := by
  simp only [modelLines, registryLines, linesBehindConstants, codeOf_append, codeOf_flatMap,
    TablePlan.codeOf_constantLines_eq, List.append_assoc]

/-- A list that is put between the parts of another one leaves it as it is only if it is empty
everywhere. -/
theorem flatMap_append_eq_iff {α β : Type} {l : List α} {f g : α → List β} :
    (l.flatMap fun x => f x ++ g x) = l.flatMap g ↔ ∀ x ∈ l, f x = [] := by
  have count : (l.flatMap fun x => f x ++ g x).length =
      (l.flatMap f).length + (l.flatMap g).length := by
    induction l with
    | nil => rfl
    | cons x l ih =>
      simp only [List.flatMap_cons, List.length_append, ih]
      omega
  rw [← List.flatMap_eq_nil_iff]
  constructor
  · intro same
    rw [same] at count
    exact List.eq_nil_of_length_eq_zero (by omega)
  · intro nothing
    rw [List.flatMap_eq_nil_iff] at nothing
    exact List.flatMap_congr fun x hx => by rw [nothing x hx, List.nil_append]

/-! ## Tables without the names of their databases -/

section

variable {p q : Plan}
  (same : p.map TablePlan.withoutDatabaseName = q.map TablePlan.withoutDatabaseName)

include same

/-- What does not look at the name of a database is the same for the tables of both plans. -/
theorem Plan.map_tables_eq {α : Type} (f : TablePlan → α)
    (blind : ∀ t, f t.withoutDatabaseName = f t) : p.tables.map f = q.tables.map f := by
  have erased (p : Plan) :
      (p.map TablePlan.withoutDatabaseName).tables.map f = p.tables.map f := by
    simp only [map, List.map_map, Function.comp_def, blind]
  rw [← erased p, ← erased q, same]

theorem Plan.wireSchemaLines_congr (s : Settings) : p.wireSchemaLines s = q.wireSchemaLines s := by
  have rpcs := map_tables_eq same TablePlan.rpcLines fun _ => rfl
  have tables := map_tables_eq same TablePlan.wireLines fun _ => rfl
  simp only [wireSchemaLines_eq, serviceLines, List.flatMap_def, rpcs, tables]

theorem Plan.linesBehindConstants_congr : p.linesBehindConstants = q.linesBehindConstants := by
  have entries := map_tables_eq same TablePlan.registryEntry fun _ => rfl
  have models := map_tables_eq same (fun t => "" :: t.modelLines) fun _ => rfl
  simp only [linesBehindConstants, List.flatMap_def, entries, models]

/-- A plan whose descriptions hold no code has the code of another one exactly if those of the
other hold none either. -/
theorem Plan.codeOf_modelLines_eq_iff (s : Settings)
    (silent : ∀ t ∈ p.tables, t.descriptionCode = []) :
    codeOf (p.modelLines s) = codeOf (q.modelLines s) ↔
      ∀ u ∈ q.tables, u.descriptionCode = [] := by
  have constants : p.tables.flatMap TablePlan.constantCode =
      q.tables.flatMap TablePlan.constantCode := by
    have each := map_tables_eq same TablePlan.constantCode fun _ => rfl
    rw [List.flatMap_def, List.flatMap_def, each]
  have alone : (p.tables.flatMap fun t => t.descriptionCode ++ t.constantCode) =
      q.tables.flatMap TablePlan.constantCode :=
    (flatMap_append_eq_iff.mpr silent).trans constants
  rw [p.codeOf_modelLines_eq, q.codeOf_modelLines_eq, alone, linesBehindConstants_congr same,
    List.append_cancel_left_eq, List.append_cancel_right_eq, eq_comm, flatMap_append_eq_iff]

end

theorem Document.describesInComments_iff {d : Document} {p : Plan} (h : d.resolve = .ok p) :
    d.DescribesInComments ↔ ∀ t ∈ p.tables, t.descriptionCode = [] := by
  have code (t : TablePlan) (x : PlacedTable) (mirrors : t.Mirrors x) :
      t.descriptionCode = [] ↔
        codeLines (descriptionLine x.schema x.table.name x.database) = [] := by
    rw [TablePlan.descriptionCode, mirrors.schemaName, mirrors.storageName, mirrors.databaseName]
  exact (forall_mem_iff_of_forall₂ code (Document.mirrors_of_resolve h)).symm

theorem Document.codeLines_model_iff {d e : Document} {p q : Plan} (h : d.resolve = .ok p)
    (h' : e.resolve = .ok q) (same : d.withoutDatabaseNames = e.withoutDatabaseNames)
    (s : Settings) (described : d.DescribesInComments) :
    codeLines (p.artifacts s).model = codeLines (q.artifacts s).model ↔ e.DescribesInComments := by
  have plans := Document.plans_agree_without_databaseNames h h' same
  rw [(p.codeLines_artifacts s).1, (q.codeLines_artifacts s).1, List.append_cancel_right_eq,
    Document.describesInComments_iff h']
  exact Plan.codeOf_modelLines_eq_iff plans s ((Document.describesInComments_iff h).mp described)

/-- **When the names of databases hold no code.** Two accepted documents that differ in the names
of their databases only have the same wire schema. Their models hold the same code if no name in
a description breaks the line. In general, where the descriptions of the one are comments as a
whole, both hold the same code exactly if the descriptions of the other are comments too. -/
theorem Document.databaseNames_hold_no_code_iff {d e : Document} {p q : Plan} {s : Settings}
    (h : d.resolve = .ok p) (h' : e.resolve = .ok q) (valid : s.validate = .ok ())
    (same : d.withoutDatabaseNames = e.withoutDatabaseNames) :
    ∃ a b, d.render s = .ok a ∧ e.render s = .ok b ∧ a.wireSchema = b.wireSchema ∧
      ((∀ x ∈ d.placed ++ e.placed, IsLine x.schema ∧ IsLine x.table.name ∧ IsLine x.database) →
        codeLines a.model = codeLines b.model) ∧
      (d.DescribesInComments →
        (codeLines a.model = codeLines b.model ↔ e.DescribesInComments)) := by
  have iff := Document.codeLines_model_iff h h' same s
  refine ⟨p.artifacts s, q.artifacts s, Document.render_eq_ok.mpr ⟨valid, p, h, rfl⟩,
    Document.render_eq_ok.mpr ⟨valid, q, h', rfl⟩, ?_, fun single => ?_, iff⟩
  · have plans := Document.plans_agree_without_databaseNames h h' same
    rw [Plan.artifacts, Plan.artifacts, Plan.wireSchemaLines_congr plans]
  · rw [List.forall_mem_append] at single
    have described : d.DescribesInComments := fun x hx =>
      codeLines_descriptionLine (single.1 x hx)
    have described' : e.DescribesInComments := fun x hx =>
      codeLines_descriptionLine (single.2 x hx)
    exact (iff described).mpr described'

/-- The world with other names for its databases. -/
def renamedWorld : Document := ⟨worldDocument.databases.map fun b => { b with name := "\"`." }⟩

theorem renamedWorld_code :
    renamedWorld ≠ worldDocument ∧
    ∃ a b, worldDocument.render .initial = .ok a ∧ renamedWorld.render .initial = .ok b ∧
      a.wireSchema = b.wireSchema ∧ codeLines a.model = codeLines b.model := by
  have accepted : renamedWorld.resolve.toOption.isSome := by decide +kernel
  obtain ⟨p, resolved, -⟩ := worldDocument_resolves
  obtain ⟨q, resolved'⟩ := Option.isSome_iff_exists.mp accepted
  have valid : Settings.initial.validate = .ok () := by decide +kernel
  have single : ∀ x ∈ worldDocument.placed ++ renamedWorld.placed,
      IsLine x.schema ∧ IsLine x.table.name ∧ IsLine x.database := by
    decide +kernel
  obtain ⟨a, b, rendered, rendered', wireSchema, model, -⟩ :=
    Document.databaseNames_hold_no_code_iff resolved (toOption_eq_some.mp resolved') valid
      (by decide)
  exact ⟨by decide, a, b, rendered, rendered', wireSchema, model single⟩

/-- The regions in a database. -/
def regionDocument (database : String) : Document where
  databases := [
    ⟨database, [⟨"SH", [
      ⟨"REGIONS", "Region", "Regions", none,
        [⟨"NAME", "Name", "VARCHAR2(20)", false, none, none⟩], []⟩]⟩]⟩]

/-- A line feed in the name of a database ends the comment, and the rest of the name is code. -/
theorem regionDocument_forged :
    (regionDocument "ORCL").withoutDatabaseNames =
        (regionDocument "ORCL\npub struct Forged;\n//").withoutDatabaseNames ∧
    ∃ a b, (regionDocument "ORCL").render .initial = .ok a ∧
      (regionDocument "ORCL\npub struct Forged;\n//").render .initial = .ok b ∧
      codeLines a.model ≠ codeLines b.model := by
  have accepted : (regionDocument "ORCL").resolve.toOption.isSome := by decide +kernel
  have accepted' :
      (regionDocument "ORCL\npub struct Forged;\n//").resolve.toOption.isSome := by
    decide +kernel
  obtain ⟨p, resolved⟩ := Option.isSome_iff_exists.mp accepted
  obtain ⟨q, resolved'⟩ := Option.isSome_iff_exists.mp accepted'
  rw [toOption_eq_some] at resolved resolved'
  have valid : Settings.initial.validate = .ok () := by decide +kernel
  have described : (regionDocument "ORCL").DescribesInComments := by
    unfold Document.DescribesInComments
    decide +kernel
  have undescribed :
      ¬ (regionDocument "ORCL\npub struct Forged;\n//").DescribesInComments := by
    unfold Document.DescribesInComments
    decide +kernel
  refine ⟨rfl, p.artifacts .initial, q.artifacts .initial,
    Document.render_eq_ok.mpr ⟨valid, p, resolved, rfl⟩,
    Document.render_eq_ok.mpr ⟨valid, q, resolved', rfl⟩, fun same => undescribed ?_⟩
  exact (Document.codeLines_model_iff resolved resolved' rfl .initial described).mp same

end Tablecast
