import Tablecast.Plan.Resolve
import Tablecast.Proofs.Consistency

/-!
# Plans mirror their documents

Resolving a document takes every table over in the order of declaration, numbers the fields of each
from 1, and keeps the names apart that validation keeps apart. So the first entry that a look-up
finds under a name is the only one.

* `PlacedTable.mirrors_of_resolve`, `Document.mirrors_of_resolve`: table by table, the plan says
  what the document declares;
* `Document.wellFormed_of_resolve`: what the codec needs of a plan, without its document;
* `Document.resolve_structure`: both, with the look-ups.
-/

namespace Tablecast

/-! ## The plan of a declaration -/

/-- The plan says what the column declares, its type resolved. -/
structure ColumnPlan.Mirrors (q : ColumnPlan) (c : Column) : Prop where
  storageName : q.storageName = c.name
  fieldName : q.fieldName = c.fieldName
  comment : q.comment = c.comment
  semantic : Declaration.semantic? c.databaseType c.name = some q.type.semantic
  nullable : q.type.nullable = c.nullable
  wire : q.wire = q.type.wire
  conversion : q.conversion = q.type.conversion
  databaseGenerated : q.databaseGenerated = c.isDatabaseGenerated

structure RelationshipPlan.Mirrors (r : RelationshipPlan) (k : ForeignKey) : Prop where
  fieldName : r.field.fieldName = k.fieldName
  targetType : r.field.targetType = k.toClassName
  fromColumn : r.field.fromColumn = k.fromColumn

structure TablePlan.Mirrors (t : TablePlan) (p : PlacedTable) : Prop where
  databaseName : t.databaseName = p.database
  schemaName : t.schemaName = p.schema
  storageName : t.storageName = p.table.name
  typeName : t.typeName = p.table.className
  handleName : t.handleName = p.table.handleName
  comment : t.comment = p.table.comment
  columns : List.Forall₂ ColumnPlan.Mirrors t.columns p.table.columns
  relationships : List.Forall₂ RelationshipPlan.Mirrors t.relationships p.table.foreignKeys

/-- The names of the fields in the order of their numbers. -/
def TablePlan.fieldNames (t : TablePlan) : List String :=
  t.columns.map ColumnPlan.fieldName ++ t.relationships.map fun r => r.field.fieldName

/-- A relationship may be null exactly if the column it starts at may. -/
def TablePlan.KeysShareNull (t : TablePlan) : Prop :=
  ∀ r ∈ t.relationships, ∃ c ∈ t.columns,
    c.storageName = r.field.fromColumn ∧ c.type.nullable = r.field.nullable

/-- What holds in every table of a plan, whatever document it comes from. -/
structure TablePlan.WellFormed (t : TablePlan) : Prop where
  tags : t.tags = List.range' 1 (t.columns.length + t.relationships.length)
  columns_nodup : (t.columns.map ColumnPlan.storageName).Nodup
  fields_nodup : (t.fieldNames.map Naming.field).Nodup
  conversions : ∀ c ∈ t.columns, c.wire = c.type.wire ∧ c.conversion = c.type.conversion
  keysShareNull : t.KeysShareNull

structure Plan.WellFormed (p : Plan) : Prop where
  tables : ∀ t ∈ p.tables, t.WellFormed
  types_nodup : (p.tables.map TablePlan.typeName).Nodup
  target_mem : ∀ t ∈ p.tables, ∀ r ∈ t.relationships,
    r.field.targetType ∈ p.tables.map TablePlan.typeName

theorem TablePlan.Mirrors.fieldNames {t : TablePlan} {p : PlacedTable} (h : t.Mirrors p) :
    t.fieldNames = p.table.fieldNames := by
  have columns := map_eq_map_of_forall₂ ColumnPlan.fieldName Column.fieldName
    (fun _ _ => ColumnPlan.Mirrors.fieldName) h.columns
  have relationships := map_eq_map_of_forall₂ (fun r : RelationshipPlan => r.field.fieldName)
    ForeignKey.fieldName (fun _ _ => RelationshipPlan.Mirrors.fieldName) h.relationships
  rw [TablePlan.fieldNames, Table.fieldNames, columns, relationships]

/-! ## Resolving a table -/

theorem Column.resolve_eq_ok {c : Column} {type : FieldType} :
    c.resolve = .ok type ↔
      Declaration.semantic? c.databaseType c.name = some type.semantic ∧
        type.nullable = c.nullable := by
  cases type
  cases known : Declaration.semantic? c.databaseType c.name <;>
    simp [Column.resolve, known, eq_comm]

theorem Column.plan_mirrors {c : Column} {type : FieldType} (h : c.resolve = .ok type)
    (tag : Nat) : (c.plan type tag).Mirrors c := by
  obtain ⟨semantic, nullable⟩ := Column.resolve_eq_ok.mp h
  exact ⟨rfl, rfl, rfl, semantic, nullable, rfl, rfl, rfl⟩

theorem planColumns_ok {tag : Nat} {cs : List Column} {qs : List ColumnPlan}
    (h : planColumns tag cs = .ok qs) :
    List.Forall₂ ColumnPlan.Mirrors qs cs ∧
      qs.map ColumnPlan.tag = List.range' tag qs.length := by
  induction cs generalizing tag qs with
  | nil =>
    cases h
    exact ⟨.nil, rfl⟩
  | cons c cs ih =>
    simp only [planColumns, bind_eq_ok, pure_eq_ok] at h
    obtain ⟨type, resolved, plans, rest, rfl⟩ := h
    obtain ⟨mirrors, tags⟩ := ih rest
    refine ⟨.cons (Column.plan_mirrors resolved tag) mirrors, ?_⟩
    simp [tags, Column.plan, List.range'_succ]

theorem planRelationships_fields (owner : String) (tag : Nat) (rs : List Relationship) :
    (planRelationships owner tag rs).map RelationshipPlan.field = rs := by
  induction rs generalizing tag with
  | nil => rfl
  | cons r rs ih => simp [planRelationships, ih]

theorem planRelationships_tags (owner : String) (tag : Nat) (rs : List Relationship) :
    (planRelationships owner tag rs).map RelationshipPlan.tag = List.range' tag rs.length := by
  induction rs generalizing tag with
  | nil => rfl
  | cons r rs ih => simp [planRelationships, ih, List.range'_succ]

theorem ForeignKey.resolve_eq_ok {table : String} {types : List (String × FieldType)}
    {k : ForeignKey} {r : Relationship} :
    k.resolve table types = .ok r ↔
      ∃ type, types.reverse.lookup k.fromColumn = some type ∧
        r = ⟨k.fieldName, k.toClassName, k.fromColumn, type.nullable⟩ := by
  cases known : types.reverse.lookup k.fromColumn <;> simp [ForeignKey.resolve, known, eq_comm]

/-- A resolved foreign key starts at a column that was resolved before, and shares its null. -/
theorem ForeignKey.resolve_shares_null {table : String} {columns : List ColumnPlan}
    {k : ForeignKey} {r : Relationship}
    (h : k.resolve table (columns.map fun c => (c.storageName, c.type)) = .ok r) :
    ∃ c ∈ columns, c.storageName = r.fromColumn ∧ c.type.nullable = r.nullable := by
  obtain ⟨type, found, rfl⟩ := ForeignKey.resolve_eq_ok.mp h
  obtain ⟨before, after, split, -⟩ := List.lookup_eq_some_iff.mp found
  have entry : (k.fromColumn, type) ∈ columns.map fun c => (c.storageName, c.type) := by
    rw [← List.mem_reverse, split]
    simp
  obtain ⟨c, hc, same⟩ := List.mem_map.mp entry
  simp only [Prod.mk.injEq] at same
  exact ⟨c, hc, same.1, by rw [same.2]⟩

theorem PlacedTable.mirrors_of_resolve {p : PlacedTable} {t : TablePlan}
    (h : p.resolve = .ok t) : t.Mirrors p := by
  simp only [PlacedTable.resolve, bind_eq_ok, pure_eq_ok] at h
  obtain ⟨columns, columns_ok, fields, fields_ok, rfl⟩ := h
  have keys : List.Forall₂ (fun (r : Relationship) (k : ForeignKey) =>
      r.fieldName = k.fieldName ∧ r.targetType = k.toClassName ∧ r.fromColumn = k.fromColumn)
      fields p.table.foreignKeys := by
    refine (mapM_eq_ok.mp fields_ok).flip.imp fun r k resolved => ?_
    obtain ⟨type, -, rfl⟩ := ForeignKey.resolve_eq_ok.mp resolved
    exact ⟨rfl, rfl, rfl⟩
  rw [← planRelationships_fields p.table.className (columns.length + 1) fields,
    List.forall₂_map_left_iff] at keys
  exact ⟨rfl, rfl, rfl, rfl, rfl, rfl, (planColumns_ok columns_ok).1,
    keys.imp fun _ _ h => ⟨h.1, h.2.1, h.2.2⟩⟩

theorem PlacedTable.tags_of_resolve {p : PlacedTable} {t : TablePlan} (h : p.resolve = .ok t) :
    t.tags = List.range' 1 (t.columns.length + t.relationships.length) := by
  simp only [PlacedTable.resolve, bind_eq_ok, pure_eq_ok] at h
  obtain ⟨columns, columns_ok, fields, -, rfl⟩ := h
  have count : (planRelationships p.table.className (columns.length + 1) fields).length =
      fields.length := by
    rw [← List.length_map RelationshipPlan.field, planRelationships_fields]
  simp only [TablePlan.tags, (planColumns_ok columns_ok).2, planRelationships_tags, count]
  rw [Nat.add_comm columns.length 1, List.range'_append_1]

theorem PlacedTable.keysShareNull_of_resolve {p : PlacedTable} {t : TablePlan}
    (h : p.resolve = .ok t) : t.KeysShareNull := by
  simp only [PlacedTable.resolve, bind_eq_ok, pure_eq_ok] at h
  obtain ⟨columns, -, fields, fields_ok, rfl⟩ := h
  intro r hr
  have field_mem : r.field ∈ fields := by
    rw [← planRelationships_fields p.table.className (columns.length + 1) fields]
    exact List.mem_map_of_mem hr
  obtain ⟨k, -, resolved⟩ := exists_of_mem_mapM fields_ok field_mem
  exact ForeignKey.resolve_shares_null resolved

theorem PlacedTable.wellFormed_of_resolve {p : PlacedTable} {t : TablePlan}
    (consistent : p.table.Consistent) (h : p.resolve = .ok t) : t.WellFormed where
  tags := tags_of_resolve h
  columns_nodup := by
    have names := map_eq_map_of_forall₂ ColumnPlan.storageName Column.name
      (fun _ _ => ColumnPlan.Mirrors.storageName) (mirrors_of_resolve h).columns
    exact names ▸ consistent.columns_nodup
  fields_nodup := (mirrors_of_resolve h).fieldNames ▸ consistent.fields_nodup
  conversions := fun c hc => by
    obtain ⟨declared, -, mirrors⟩ :=
      exists_of_mem_forall₂ (mirrors_of_resolve h).columns hc
    exact ⟨mirrors.wire, mirrors.conversion⟩
  keysShareNull := keysShareNull_of_resolve h

/-! ## Resolving a document -/

theorem TablePlan.Mirrors.boxTable {t : TablePlan} {p : PlacedTable} (h : t.Mirrors p)
    (plan : Plan) : (plan.boxTable t).Mirrors p where
  databaseName := h.databaseName
  schemaName := h.schemaName
  storageName := h.storageName
  typeName := h.typeName
  handleName := h.handleName
  comment := h.comment
  columns := h.columns
  relationships := by
    rw [Plan.boxTable, List.forall₂_map_left_iff]
    exact h.relationships.imp fun r k h => ⟨h.fieldName, h.targetType, h.fromColumn⟩

theorem TablePlan.WellFormed.boxTable {t : TablePlan} (h : t.WellFormed) (plan : Plan) :
    (plan.boxTable t).WellFormed where
  tags := by
    rw [Plan.boxTable_tags, h.tags]
    simp [Plan.boxTable]
  columns_nodup := h.columns_nodup
  fields_nodup := by
    simpa [Plan.boxTable, TablePlan.fieldNames, Function.comp_def] using h.fields_nodup
  conversions := h.conversions
  keysShareNull := by simpa [Plan.boxTable, TablePlan.KeysShareNull] using h.keysShareNull

/-- A plan is what its tables are by themselves, with the relationships on cycles boxed. -/
theorem Document.resolve_eq_ok {d : Document} {p : Plan} :
    d.resolve = .ok p ↔
      d.validate = .ok () ∧ ∃ tables, d.placed.mapM PlacedTable.resolve = .ok tables ∧
        p = (Plan.mk tables).boxCycles := by
  rw [Document.resolve, andThen_eq_ok, bind_eq_ok]
  simp only [pure_eq_ok, @eq_comm Plan p]

theorem Document.mirrors_of_resolve {d : Document} {p : Plan} (h : d.resolve = .ok p) :
    List.Forall₂ TablePlan.Mirrors p.tables d.placed := by
  obtain ⟨-, tables, tables_ok, rfl⟩ := Document.resolve_eq_ok.mp h
  rw [Plan.boxCycles, List.forall₂_map_left_iff]
  exact (mapM_eq_ok.mp tables_ok).flip.imp fun t p resolved =>
    (PlacedTable.mirrors_of_resolve resolved).boxTable _

theorem Document.wellFormed_of_resolve {d : Document} {p : Plan} (h : d.resolve = .ok p) :
    p.WellFormed := by
  have mirrors := Document.mirrors_of_resolve h
  obtain ⟨valid, tables, tables_ok, rfl⟩ := Document.resolve_eq_ok.mp h
  have consistent := Document.validate_eq_ok.mp valid
  have types := map_eq_map_of_forall₂ TablePlan.typeName (fun p => p.table.className)
    (fun _ _ => TablePlan.Mirrors.typeName) mirrors
  refine ⟨?_, types ▸ consistent.types_nodup, ?_⟩
  · intro t ht
    obtain ⟨s, hs, rfl⟩ := List.mem_map.mp ht
    obtain ⟨placed, hp, resolved⟩ := exists_of_mem_mapM tables_ok hs
    exact (PlacedTable.wellFormed_of_resolve (consistent.tables placed hp) resolved).boxTable _
  · intro t ht r hr
    obtain ⟨placed, hp, table⟩ := exists_of_mem_forall₂ mirrors ht
    obtain ⟨k, hk, key⟩ := exists_of_mem_forall₂ table.relationships hr
    rw [key.targetType, types]
    exact consistent.target_mem placed hp k hk

/-! ## Look-ups -/

theorem find?_of_nodup {α κ : Type} [DecidableEq κ] (f : α → κ) {l : List α}
    (h : (l.map f).Nodup) {x : α} (hx : x ∈ l) : l.find? (fun y => f y = f x) = some x := by
  induction l with
  | nil => cases hx
  | cons y l ih =>
    obtain ⟨absent, rest⟩ := List.nodup_cons.mp h
    rcases List.mem_cons.mp hx with rfl | hx
    · simp
    · have different : f y ≠ f x := fun same => absent (same ▸ List.mem_map_of_mem hx)
      simp [different, ih rest hx]

theorem Naming.message_injective : Function.Injective Naming.message := fun _ _ same =>
  String.append_left_inj _ |>.mp same

namespace TablePlan.WellFormed

variable {t : TablePlan} (h : t.WellFormed)

include h

theorem fieldNames_nodup : t.fieldNames.Nodup := .of_map _ h.fields_nodup

theorem column?_fieldName {c : ColumnPlan} (hc : c ∈ t.columns) :
    t.column? c.fieldName = some c :=
  find?_of_nodup ColumnPlan.fieldName (List.nodup_append.mp h.fieldNames_nodup).1 hc

theorem relationship?_fieldName {r : RelationshipPlan} (hr : r ∈ t.relationships) :
    t.relationship? r.field.fieldName = some r :=
  find?_of_nodup (fun r : RelationshipPlan => r.field.fieldName)
    (List.nodup_append.mp h.fieldNames_nodup).2.1 hr

theorem nullable_eq {r : RelationshipPlan} (hr : r ∈ t.relationships) {c : ColumnPlan}
    (hc : c ∈ t.columns) (key : c.storageName = r.field.fromColumn) :
    r.field.nullable = c.type.nullable := by
  obtain ⟨c', hc', key', null⟩ := h.keysShareNull r hr
  have same : c' = c := List.inj_on_of_nodup_map h.columns_nodup hc' hc (key'.trans key.symm)
  rw [← null, same]

end TablePlan.WellFormed

namespace Plan.WellFormed

variable {p : Plan} (h : p.WellFormed)

include h

theorem table?_typeName {t : TablePlan} (ht : t ∈ p.tables) : p.table? t.typeName = some t :=
  find?_of_nodup TablePlan.typeName h.types_nodup ht

theorem carried?_messageName {t : TablePlan} (ht : t ∈ p.tables) :
    p.carried? t.messageName = some t := by
  refine find?_of_nodup TablePlan.messageName ?_ ht
  have messages : p.tables.map TablePlan.messageName =
      (p.tables.map TablePlan.typeName).map Naming.message := by
    simp [TablePlan.messageName]
  rw [messages]
  exact h.types_nodup.map Naming.message_injective

end Plan.WellFormed

/-- **A plan is an index of its document.** It has one table per declared table, in order; the
fields of each are numbered from 1, columns first; types travel as their families do; a
relationship may be null exactly if its column may, and leads to a table of the plan; and looking
anything up by its name finds that very entry. -/
theorem Document.resolve_structure {d : Document} {p : Plan} (h : d.resolve = .ok p) :
    List.Forall₂ TablePlan.Mirrors p.tables d.placed ∧
      ∀ t ∈ p.tables,
        t.tags = List.range' 1 (t.columns.length + t.relationships.length) ∧
        (∀ c ∈ t.columns, c.wire = c.type.wire ∧ c.conversion = c.type.conversion ∧
          t.column? c.fieldName = some c) ∧
        (∀ r ∈ t.relationships,
          (∃ c ∈ t.columns, c.storageName = r.field.fromColumn) ∧
          (∀ c ∈ t.columns, c.storageName = r.field.fromColumn →
            r.field.nullable = c.type.nullable) ∧
          (∃ u ∈ p.tables, u.typeName = r.field.targetType) ∧
          t.relationship? r.field.fieldName = some r) ∧
        p.table? t.typeName = some t ∧ p.carried? t.messageName = some t := by
  have wellFormed := Document.wellFormed_of_resolve h
  refine ⟨Document.mirrors_of_resolve h, fun t ht => ?_⟩
  have table := wellFormed.tables t ht
  refine ⟨table.tags, fun c hc => ?_, fun r hr => ?_, wellFormed.table?_typeName ht,
    wellFormed.carried?_messageName ht⟩
  · obtain ⟨wire, conversion⟩ := table.conversions c hc
    exact ⟨wire, conversion, table.column?_fieldName hc⟩
  · obtain ⟨c, hc, key, -⟩ := table.keysShareNull r hr
    obtain ⟨u, hu, target⟩ := List.mem_map.mp (wellFormed.target_mem t ht r hr)
    exact ⟨⟨c, hc, key⟩, fun c hc key => table.nullable_eq hr hc key, ⟨u, hu, target⟩,
      table.relationship?_fieldName hr⟩

/-- Customers live in countries and may have a parent; a country lies in a region, whose capital
is again a country. -/
def worldDocument : Document where
  databases := [
    ⟨"ORCL", [⟨"SH", [
      ⟨"CUSTOMERS", "Customer", "Customers", none,
        [⟨"CUST_ID", "CustId", "NUMBER", false, none, none⟩,
          ⟨"COUNTRY_ID", "CountryId", "NUMBER(10)", false, none, none⟩,
          ⟨"PARENT", "ParentId", "NUMBER(3)", true, none, none⟩,
          ⟨"CREDIT", "Credit", "NUMBER(10,2)", true, none, none⟩],
        [⟨"COUNTRY_ID", "Country", "Country"⟩, ⟨"PARENT", "Customer", "Parent"⟩]⟩]⟩]⟩,
    ⟨"GEO", [⟨"EMPTY", []⟩, ⟨"MAP", [
      ⟨"COUNTRIES", "Country", "Countries", none,
        [⟨"NAME", "Name", "VARCHAR2(40)", false, none, none⟩,
          ⟨"FOUNDED", "Founded", "DATE", true, none, none⟩],
        [⟨"NAME", "Region", "Region"⟩]⟩,
      ⟨"REGIONS", "Region", "Regions", none,
        [⟨"SEEN", "Seen", "TIMESTAMP(6)", false, some "CURRENT_TIMESTAMP()", none⟩],
        [⟨"SEEN", "Country", "Capital"⟩]⟩]⟩]⟩]

/-- Every relationship with its owner and its target, and whether it is boxed. -/
def Plan.references (p : Plan) : List (String × String × Bool) :=
  p.tables.flatMap fun t =>
    t.relationships.map fun r => (t.typeName, r.field.targetType, r.boxed)

theorem worldDocument_resolves : ∃ p, worldDocument.resolve = .ok p ∧
    p.references = [("Customer", "Country", false), ("Customer", "Customer", true),
      ("Country", "Region", true), ("Region", "Country", true)] := by
  have evaluated : worldDocument.resolve.toOption.map Plan.references =
      some [("Customer", "Country", false), ("Customer", "Customer", true),
        ("Country", "Region", true), ("Region", "Country", true)] := by
    decide +kernel
  simpa only [Option.map_eq_some_iff, toOption_eq_some] using evaluated

theorem worldDocument_types : ∃ p, worldDocument.resolve = .ok p ∧
    p.tables.map TablePlan.typeName = ["Customer", "Country", "Region"] := by
  have evaluated : worldDocument.resolve.toOption.map (fun p => p.tables.map TablePlan.typeName) =
      some ["Customer", "Country", "Region"] := by
    decide +kernel
  simpa only [Option.map_eq_some_iff, toOption_eq_some] using evaluated

theorem worldDocument_structure :
    ∃ p, worldDocument.resolve = .ok p ∧
      List.Forall₂ TablePlan.Mirrors p.tables worldDocument.placed ∧
      ∀ t ∈ p.tables, t.tags = List.range' 1 (t.columns.length + t.relationships.length) := by
  obtain ⟨p, resolved, -⟩ := worldDocument_resolves
  obtain ⟨mirrors, tables⟩ := Document.resolve_structure resolved
  exact ⟨p, resolved, mirrors, fun t ht => (tables t ht).1⟩

end Tablecast
