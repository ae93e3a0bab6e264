import Mathlib.Data.List.Nodup
import Tablecast.Document.Consistency
import Tablecast.Proofs.Success
import Tablecast.Proofs.Text.Blank

/-!
# What validation accepts

Validation collects the names of tables and members and never takes a name twice. So it accepts
exactly the documents that are `Consistent`: their required texts are there, the generated names
differ, and every foreign key starts at a column of its table and leads to a declared type.

* `addColumn_eq_ok`, `addForeignKey_eq_ok`, `addTable_eq_ok`: what a step demands and collects;
* `addColumns_eq_ok`, `addForeignKeys_eq_ok`, `addTables_eq_ok`: what a pass does;
* `Document.validate_eq_ok`, `Document.validate_accepts_iff`: which documents pass.
-/

namespace Tablecast

def Column.IsNamed (c : Column) : Prop :=
  Text.isVacant c.name = false ∧ Text.isVacant c.fieldName = false ∧
    Text.isVacant c.databaseType = false

def ForeignKey.IsNamed (k : ForeignKey) : Prop :=
  Text.isVacant k.fieldName = false ∧ Text.isVacant k.toClassName = false

def Table.IsNamed (t : Table) : Prop :=
  Text.isVacant t.name = false ∧ Text.isVacant t.className = false ∧
    Text.isVacant t.handleName = false

/-- The names of the fields: those of columns first, then those of foreign keys. -/
def Table.fieldNames (t : Table) : List String :=
  t.columns.map Column.fieldName ++ t.foreignKeys.map ForeignKey.fieldName

structure Table.Consistent (t : Table) : Prop where
  named : t.IsNamed
  columns_named : ∀ c ∈ t.columns, c.IsNamed
  foreignKeys_named : ∀ k ∈ t.foreignKeys, k.IsNamed
  columns_nodup : (t.columns.map Column.name).Nodup
  fields_nodup : (t.fieldNames.map Naming.field).Nodup
  fromColumn_mem : ∀ k ∈ t.foreignKeys, k.fromColumn ∈ t.columns.map Column.name

structure Document.Consistent (d : Document) : Prop where
  tables : ∀ p ∈ d.placed, p.table.Consistent
  types_nodup : (d.placed.map fun p => p.table.className).Nodup
  constants_nodup : (d.placed.map fun p => Naming.constant p.table.handleName).Nodup
  constant_ne_registry : ∀ p ∈ d.placed, Naming.constant p.table.handleName ≠ Naming.registry
  target_mem : ∀ p ∈ d.placed, ∀ k ∈ p.table.foreignKeys,
    k.toClassName ∈ d.placed.map fun p => p.table.className

theorem require_eq_ok {value location : String} {text : Required} :
    require value text location = .ok () ↔ Text.isVacant value = false := by
  unfold require
  split <;> simp_all

/-! ## Members of a table -/

namespace MemberNames

/-- The generated field names that are taken. -/
def taken (names : MemberNames) : List String := names.fields.map Prod.fst

def Distinct (names : MemberNames) : Prop := names.columns.Nodup ∧ names.taken.Nodup

theorem claimField_eq_ok {names names' : MemberNames} {fieldName location : String} :
    names.claimField fieldName location = .ok names' ↔
      Naming.field fieldName ∉ names.taken ∧
        names' = { names with fields := (Naming.field fieldName, fieldName) :: names.fields } := by
  unfold claimField
  split
  · next existing found =>
    obtain ⟨before, after, split, -⟩ := List.lookup_eq_some_iff.mp found
    simp [taken, split]
  · next absent =>
    have free : Naming.field fieldName ∉ names.taken := by
      intro h
      obtain ⟨e, he, same⟩ := List.mem_map.mp h
      simpa [← same] using List.lookup_eq_none_iff.mp absent e he
    simp [free, eq_comm]

def withColumn (names : MemberNames) (c : Column) : MemberNames :=
  ⟨c.name :: names.columns, (Naming.field c.fieldName, c.fieldName) :: names.fields⟩

@[simp] theorem columns_withColumn (names : MemberNames) (c : Column) :
    (names.withColumn c).columns = c.name :: names.columns := rfl

@[simp] theorem taken_withColumn (names : MemberNames) (c : Column) :
    (names.withColumn c).taken = Naming.field c.fieldName :: names.taken := rfl

theorem addColumn_eq_ok {location : String} {names names' : MemberNames} {c : Column} :
    names.addColumn location c = .ok names' ↔
      c.IsNamed ∧ c.name ∉ names.columns ∧ Naming.field c.fieldName ∉ names.taken ∧
        names' = names.withColumn c := by
  simp only [addColumn, andThen_eq_ok, require_eq_ok, Column.IsNamed, and_assoc]
  by_cases known : c.name ∈ names.columns
  · simp [known]
  · simp [known, claimField_eq_ok, taken, withColumn]

theorem distinct_withColumn {names : MemberNames} {c : Column} :
    (names.withColumn c).Distinct ↔
      c.name ∉ names.columns ∧ Naming.field c.fieldName ∉ names.taken ∧ names.Distinct := by
  simp only [Distinct, columns_withColumn, taken_withColumn, List.nodup_cons]
  constructor
  · rintro ⟨⟨name_free, columns⟩, field_free, taken⟩
    exact ⟨name_free, field_free, columns, taken⟩
  · rintro ⟨name_free, field_free, columns, taken⟩
    exact ⟨⟨name_free, columns⟩, field_free, taken⟩

theorem foldl_withColumn (cs : List Column) (names : MemberNames) :
    (cs.foldl withColumn names).columns = (cs.map Column.name).reverse ++ names.columns ∧
      (cs.foldl withColumn names).taken =
        (cs.map fun c => Naming.field c.fieldName).reverse ++ names.taken := by
  induction cs generalizing names with
  | nil => exact ⟨rfl, rfl⟩
  | cons c cs ih => simp [ih]

theorem addColumns_eq_ok {location : String} {cs : List Column} {names names' : MemberNames}
    (distinct : names.Distinct) :
    cs.foldlM (addColumn location) names = .ok names' ↔
      (∀ c ∈ cs, c.IsNamed) ∧ names' = cs.foldl withColumn names ∧ names'.Distinct := by
  refine foldlM_eq_ok withColumn Distinct Column.IsNamed (fun {names c names'} distinct => ?_)
    (fun h => (distinct_withColumn.mp h).2.2) distinct
  rw [addColumn_eq_ok]
  constructor
  · rintro ⟨named, name_free, field_free, rfl⟩
    exact ⟨named, rfl, distinct_withColumn.mpr ⟨name_free, field_free, distinct⟩⟩
  · rintro ⟨named, rfl, distinct'⟩
    obtain ⟨name_free, field_free, -⟩ := distinct_withColumn.mp distinct'
    exact ⟨named, name_free, field_free, rfl⟩

def withForeignKey (names : MemberNames) (k : ForeignKey) : MemberNames :=
  { names with fields := (Naming.field k.fieldName, k.fieldName) :: names.fields }

@[simp] theorem columns_withForeignKey (names : MemberNames) (k : ForeignKey) :
    (names.withForeignKey k).columns = names.columns := rfl

@[simp] theorem taken_withForeignKey (names : MemberNames) (k : ForeignKey) :
    (names.withForeignKey k).taken = Naming.field k.fieldName :: names.taken := rfl

theorem addForeignKey_eq_ok {table location : String} {names names' : MemberNames}
    {k : ForeignKey} :
    names.addForeignKey table location k = .ok names' ↔
      k.IsNamed ∧ k.fromColumn ∈ names.columns ∧ Naming.field k.fieldName ∉ names.taken ∧
        names' = names.withForeignKey k := by
  simp only [addForeignKey, andThen_eq_ok, require_eq_ok, ForeignKey.IsNamed, and_assoc]
  by_cases known : k.fromColumn ∈ names.columns
  · simp [known, claimField_eq_ok, withForeignKey]
  · simp [known]

theorem distinct_withForeignKey {names : MemberNames} {k : ForeignKey} :
    (names.withForeignKey k).Distinct ↔
      Naming.field k.fieldName ∉ names.taken ∧ names.Distinct := by
  simp only [Distinct, columns_withForeignKey, taken_withForeignKey, List.nodup_cons]
  exact and_left_comm

theorem foldl_withForeignKey (ks : List ForeignKey) (names : MemberNames) :
    (ks.foldl withForeignKey names).columns = names.columns ∧
      (ks.foldl withForeignKey names).taken =
        (ks.map fun k => Naming.field k.fieldName).reverse ++ names.taken := by
  induction ks generalizing names with
  | nil => exact ⟨rfl, rfl⟩
  | cons k ks ih => simp [ih]

theorem addForeignKeys_eq_ok {table location : String} {ks : List ForeignKey}
    {names names' : MemberNames} (distinct : names.Distinct) :
    ks.foldlM (addForeignKey table location) names = .ok names' ↔
      (∀ k ∈ ks, k.IsNamed ∧ k.fromColumn ∈ names.columns) ∧
        names' = ks.foldl withForeignKey names ∧ names'.Distinct := by
  -- that the columns stay is part of the invariant, so that every step sees the same ones
  rw [foldlM_eq_ok withForeignKey (fun now => now.columns = names.columns ∧ now.Distinct)
    (fun k => k.IsNamed ∧ k.fromColumn ∈ names.columns) (fun {now k names'} inv => ?_)
    (fun inv => ⟨inv.1, (distinct_withForeignKey.mp inv.2).2⟩) ⟨rfl, distinct⟩]
  · constructor
    · rintro ⟨all, done, -, distinct'⟩
      exact ⟨all, done, distinct'⟩
    · rintro ⟨all, rfl, distinct'⟩
      exact ⟨all, rfl, (foldl_withForeignKey ks names).1, distinct'⟩
  · rw [addForeignKey_eq_ok, inv.1]
    constructor
    · rintro ⟨named, known, field_free, rfl⟩
      exact ⟨⟨named, known⟩, rfl, inv.1, distinct_withForeignKey.mpr ⟨field_free, inv.2⟩⟩
    · rintro ⟨⟨named, known⟩, rfl, -, distinct'⟩
      exact ⟨named, known, (distinct_withForeignKey.mp distinct').1, rfl⟩

/-- The names of all columns, then those of all foreign keys. -/
def ofTable (t : Table) : MemberNames :=
  t.foreignKeys.foldl withForeignKey (t.columns.foldl withColumn ⟨[], []⟩)

theorem distinct_ofTable {t : Table} :
    (ofTable t).Distinct ↔
      (t.columns.map Column.name).Nodup ∧ (t.fieldNames.map Naming.field).Nodup := by
  obtain ⟨columns, taken⟩ := foldl_withColumn t.columns ⟨[], []⟩
  obtain ⟨columns', taken'⟩ := foldl_withForeignKey t.foreignKeys
    (t.columns.foldl withColumn ⟨[], []⟩)
  have fields : (ofTable t).taken = (t.fieldNames.map Naming.field).reverse := by
    rw [ofTable, taken', taken]
    simp [Table.fieldNames, MemberNames.taken, Function.comp_def]
  rw [Distinct, fields, ofTable, columns', columns, List.append_nil, List.nodup_reverse,
    List.nodup_reverse]

/-- Names that are distinct in the end were distinct after the columns. -/
theorem distinct_columns {t : Table} (h : (ofTable t).Distinct) :
    (t.columns.foldl withColumn ⟨[], []⟩).Distinct := by
  obtain ⟨columns, taken⟩ := foldl_withColumn t.columns ⟨[], []⟩
  obtain ⟨columns_nodup, fields_nodup⟩ := distinct_ofTable.mp h
  rw [Table.fieldNames, List.map_append] at fields_nodup
  have column_fields := (List.nodup_append.mp fields_nodup).1
  rw [Distinct, columns, taken]
  simpa [MemberNames.taken, Function.comp_def] using And.intro columns_nodup column_fields

end MemberNames

/-! ## Tables of a document -/

namespace TableNames

def Distinct (names : TableNames) : Prop :=
  names.types.Nodup ∧ names.constants.Nodup ∧ Naming.registry ∉ names.constants

theorem claimType_eq_ok {names names' : TableNames} {typeName location : String} :
    names.claimType typeName location = .ok names' ↔
      typeName ∉ names.types ∧ names' = { names with types := typeName :: names.types } := by
  by_cases known : typeName ∈ names.types <;> simp [claimType, known, eq_comm]

theorem claimHandle_eq_ok {names names' : TableNames} {handle location : String} :
    names.claimHandle handle location = .ok names' ↔
      Naming.constant handle ≠ Naming.registry ∧ Naming.constant handle ∉ names.constants ∧
        names' = { names with constants := Naming.constant handle :: names.constants } := by
  by_cases reserved : Naming.constant handle = Naming.registry
  · simp [claimHandle, reserved]
  · by_cases known : Naming.constant handle ∈ names.constants <;>
      simp [claimHandle, reserved, known, eq_comm]

def withTable (names : TableNames) (p : PlacedTable) : TableNames :=
  ⟨p.table.className :: names.types, Naming.constant p.table.handleName :: names.constants⟩

@[simp] theorem types_withTable (names : TableNames) (p : PlacedTable) :
    (names.withTable p).types = p.table.className :: names.types := rfl

@[simp] theorem constants_withTable (names : TableNames) (p : PlacedTable) :
    (names.withTable p).constants = Naming.constant p.table.handleName :: names.constants := rfl

theorem distinct_withTable {names : TableNames} {p : PlacedTable} :
    (names.withTable p).Distinct ↔
      p.table.className ∉ names.types ∧ Naming.constant p.table.handleName ≠ Naming.registry ∧
        Naming.constant p.table.handleName ∉ names.constants ∧ names.Distinct := by
  simp only [Distinct, types_withTable, constants_withTable, List.nodup_cons, List.mem_cons, not_or]
  generalize Naming.constant p.table.handleName = constant
  constructor
  · rintro ⟨⟨type_free, types⟩, ⟨constant_free, constants⟩, ne_registry, registry_free⟩
    exact ⟨type_free, Ne.symm ne_registry, constant_free, types, constants, registry_free⟩
  · rintro ⟨type_free, ne_registry, constant_free, types, constants, registry_free⟩
    exact ⟨⟨type_free, types⟩, ⟨constant_free, constants⟩, ne_registry.symm, registry_free⟩

theorem foldl_withTable (ps : List PlacedTable) (names : TableNames) :
    (ps.foldl withTable names).types =
        (ps.map fun p => p.table.className).reverse ++ names.types ∧
      (ps.foldl withTable names).constants =
        (ps.map fun p => Naming.constant p.table.handleName).reverse ++ names.constants := by
  induction ps generalizing names with
  | nil => exact ⟨rfl, rfl⟩
  | cons p ps ih => simp [ih]

theorem addTable_eq_ok {names names' : TableNames} {p : PlacedTable} (distinct : names.Distinct) :
    names.addTable p = .ok names' ↔
      p.table.Consistent ∧ names' = names.withTable p ∧ names'.Distinct := by
  have empty : MemberNames.Distinct ⟨[], []⟩ := ⟨.nil, .nil⟩
  simp only [addTable, andThen_eq_ok, require_eq_ok]
  simp only [bind_eq_ok, pure_eq_ok, claimType_eq_ok, claimHandle_eq_ok]
  constructor
  · rintro ⟨name, className, handle, _, ⟨type_free, rfl⟩, _, ⟨ne_registry, constant_free, rfl⟩,
      columns, columns_ok, keys, keys_ok, rfl⟩
    obtain ⟨columns_named, rfl, columns_distinct⟩ :=
      (MemberNames.addColumns_eq_ok empty).mp columns_ok
    obtain ⟨keys_named, rfl, keys_distinct⟩ :=
      (MemberNames.addForeignKeys_eq_ok columns_distinct).mp keys_ok
    obtain ⟨columns_nodup, fields_nodup⟩ := MemberNames.distinct_ofTable.mp keys_distinct
    refine ⟨⟨⟨name, className, handle⟩, columns_named, fun k hk => (keys_named k hk).1,
      columns_nodup, fields_nodup, fun k hk => ?_⟩, rfl,
      distinct_withTable.mpr ⟨type_free, ne_registry, constant_free, distinct⟩⟩
    simpa [MemberNames.foldl_withColumn] using (keys_named k hk).2
  · rintro ⟨consistent, rfl, distinct'⟩
    obtain ⟨name, className, handle⟩ := consistent.named
    obtain ⟨type_free, ne_registry, constant_free, -⟩ := distinct_withTable.mp distinct'
    have members : (MemberNames.ofTable p.table).Distinct :=
      MemberNames.distinct_ofTable.mpr ⟨consistent.columns_nodup, consistent.fields_nodup⟩
    have columns := MemberNames.distinct_columns members
    refine ⟨name, className, handle, _, ⟨type_free, rfl⟩, _, ⟨ne_registry, constant_free, rfl⟩,
      _, (MemberNames.addColumns_eq_ok empty).mpr ⟨consistent.columns_named, rfl, columns⟩,
      _, (MemberNames.addForeignKeys_eq_ok columns).mpr ⟨fun k hk => ?_, rfl, members⟩, rfl⟩
    refine ⟨consistent.foreignKeys_named k hk, ?_⟩
    simpa [MemberNames.foldl_withColumn] using consistent.fromColumn_mem k hk

theorem addTables_eq_ok {ps : List PlacedTable} {names names' : TableNames}
    (distinct : names.Distinct) :
    ps.foldlM addTable names = .ok names' ↔
      (∀ p ∈ ps, p.table.Consistent) ∧ names' = ps.foldl withTable names ∧ names'.Distinct :=
  foldlM_eq_ok withTable Distinct (fun p => p.table.Consistent) addTable_eq_ok
    (fun h => (distinct_withTable.mp h).2.2.2) distinct

end TableNames

theorem checkTarget_eq_ok {types : List String} {p : PlacedTable} {k : ForeignKey} :
    checkTarget types p k = .ok () ↔ k.toClassName ∈ types := by
  by_cases known : k.toClassName ∈ types <;> simp [checkTarget, known]

theorem Document.validate_eq_ok {d : Document} : d.validate = .ok () ↔ d.Consistent := by
  have empty : TableNames.Distinct ⟨[], []⟩ := ⟨.nil, .nil, List.not_mem_nil⟩
  obtain ⟨types, constants⟩ := TableNames.foldl_withTable d.placed ⟨[], []⟩
  rw [List.append_nil] at types constants
  have distinct : (d.placed.foldl TableNames.withTable ⟨[], []⟩).Distinct ↔
      (d.placed.map fun p => p.table.className).Nodup ∧
        (d.placed.map fun p => Naming.constant p.table.handleName).Nodup ∧
        ∀ p ∈ d.placed, Naming.constant p.table.handleName ≠ Naming.registry := by
    simp only [TableNames.Distinct, types, constants, List.nodup_reverse, List.mem_reverse,
      List.mem_map, not_exists, not_and, ne_eq]
  rw [Document.validate, bind_eq_ok]
  simp only [TableNames.addTables_eq_ok empty, forM_eq_ok, checkTargets, checkTarget_eq_ok]
  constructor
  · rintro ⟨_, ⟨tables, rfl, names_distinct⟩, targets⟩
    obtain ⟨types_nodup, constants_nodup, ne_registry⟩ := distinct.mp names_distinct
    refine ⟨tables, types_nodup, constants_nodup, ne_registry, fun p hp k hk => ?_⟩
    simpa [types] using targets p hp k hk
  · intro h
    refine ⟨_, ⟨h.tables, rfl,
      distinct.mpr ⟨h.types_nodup, h.constants_nodup, h.constant_ne_registry⟩⟩, fun p hp k hk => ?_⟩
    simpa [types] using h.target_mem p hp k hk

/-! ## Validation in full -/

def Column.requiredTexts (c : Column) : List String := [c.name, c.fieldName, c.databaseType]

def ForeignKey.requiredTexts (k : ForeignKey) : List String := [k.fieldName, k.toClassName]

/-- The texts of a table and its members that may not be blank. -/
def Table.requiredTexts (t : Table) : List String :=
  [t.name, t.className, t.handleName] ++ t.columns.flatMap Column.requiredTexts ++
    t.foreignKeys.flatMap ForeignKey.requiredTexts

theorem Table.requiredTexts_iff {t : Table} :
    (∀ s ∈ t.requiredTexts, Text.trim s.toList ≠ []) ↔
      t.IsNamed ∧ (∀ c ∈ t.columns, c.IsNamed) ∧ ∀ k ∈ t.foreignKeys, k.IsNamed := by
  simp only [Table.requiredTexts, Column.requiredTexts, ForeignKey.requiredTexts, Table.IsNamed,
    Column.IsNamed, ForeignKey.IsNamed, ← Text.isVacant_eq_false, List.forall_mem_append,
    List.forall_mem_cons, List.mem_flatMap]
  grind

/-- **Validation accepts exactly the consistent documents.** No required text is blank; the types
and the constants of the tables differ, and no constant is the registry; in each table the columns
differ, the generated names of all fields differ, and a foreign key starts at a column; and every
foreign key leads to a type that is declared somewhere, before or after it. -/
theorem Document.validate_accepts_iff {d : Document} :
    d.validate = .ok () ↔
      (∀ p ∈ d.placed, ∀ s ∈ p.table.requiredTexts, Text.trim s.toList ≠ []) ∧
      (d.placed.map fun p => p.table.className).Nodup ∧
      (d.placed.map fun p => Naming.constant p.table.handleName).Nodup ∧
      (∀ p ∈ d.placed, Naming.constant p.table.handleName ≠ "TABLES") ∧
      (∀ p ∈ d.placed,
        (p.table.columns.map Column.name).Nodup ∧
        (∀ k ∈ p.table.foreignKeys, k.fromColumn ∈ p.table.columns.map Column.name) ∧
        (p.table.fieldNames.map Naming.field).Nodup) ∧
      ∀ p ∈ d.placed, ∀ k ∈ p.table.foreignKeys,
        ∃ q ∈ d.placed, q.table.className = k.toClassName := by
  simp only [Document.validate_eq_ok, Table.requiredTexts_iff]
  constructor
  · intro h
    refine ⟨fun p hp => ?_, h.types_nodup, h.constants_nodup, h.constant_ne_registry,
      fun p hp => ?_, fun p hp k hk => List.mem_map.mp (h.target_mem p hp k hk)⟩
    · have table := h.tables p hp
      exact ⟨table.named, table.columns_named, table.foreignKeys_named⟩
    · have table := h.tables p hp
      exact ⟨table.columns_nodup, table.fromColumn_mem, table.fields_nodup⟩
  · rintro ⟨named, types_nodup, constants_nodup, ne_registry, members, targets⟩
    refine ⟨fun p hp => ?_, types_nodup, constants_nodup, ne_registry,
      fun p hp k hk => List.mem_map.mpr (targets p hp k hk)⟩
    obtain ⟨table, columns, foreignKeys⟩ := named p hp
    obtain ⟨columns_nodup, fromColumn_mem, fields_nodup⟩ := members p hp
    exact ⟨table, columns, foreignKeys, columns_nodup, fields_nodup, fromColumn_mem⟩

end Tablecast
