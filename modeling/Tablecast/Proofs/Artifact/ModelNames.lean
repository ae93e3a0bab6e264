import Mathlib.Data.List.Perm.Basic
import Tablecast.Proofs.Plan.Structure
import Tablecast.Proofs.Text.Line

/-!
# The types of a model

A model declares a record and an accessor for every table, and nothing else is a type of its own.
Validation keeps the records apart. An accessor is named after its record, so it may take the name
of another record, and a record may take a name that is imported or that a message has.

* `Plan.declaredTypes_modelLines`: the types that the lines of a model declare,
* `Document.modelTypes_apart_iff`: when they are all different, and different from what the model
  uses under its own name.
-/

namespace Tablecast

open Artifact Text

/-- The type that a line of the model declares, with fields or without. -/
def declaredType? (line : String) : Option String :=
  (between? "pub struct " " \x7b" line).or (between? "pub struct " ";" line)

/-- The types that every model imports by name. -/
def importedTypes : List String :=
  ["NaiveDate", "NaiveDateTime", "Decimal", "Related", "TableAccessor"]

/-- The record of every table and its accessor. -/
def Plan.modelTypes (p : Plan) : List String :=
  p.tables.flatMap fun t => [t.typeName, t.accessorName]

/-! ## Lines that declare nothing -/

theorem declaredType?_of_startsApart {start rest : String}
    (apart : StartsApart "pub struct " start) : declaredType? (start ++ rest) = none := by
  rw [declaredType?, between?_of_startsApart apart, between?_of_startsApart apart]
  rfl

theorem declaredType?_record (name : String) :
    declaredType? ("pub struct " ++ name ++ " \x7b") = some name := by
  rw [declaredType?, between?_eq_some.mpr rfl]
  rfl

theorem declaredType?_accessor (name : String) :
    declaredType? ("pub struct " ++ name ++ ";") = some name := by
  rw [declaredType?, between?_of_endsApart (by decide), between?_eq_some.mpr rfl]
  rfl

theorem declaredTypes_indent (body : List String) :
    (indent body).filterMap declaredType? = [] := by
  rw [List.filterMap_eq_nil_iff]
  intro line h
  obtain ⟨inner, -, rfl⟩ := List.mem_map.mp h
  split
  · decide
  · exact declaredType?_of_startsApart (by decide)

theorem declaredTypes_block {start rest : String} (apart : StartsApart "pub struct " start)
    (body : List String) : (block (start ++ rest) body).filterMap declaredType? = [] := by
  have brace : declaredType? "\x7d" = none := by decide
  rw [block, List.filterMap_append, List.filterMap_cons, String.append_assoc,
    declaredType?_of_startsApart apart, declaredTypes_indent]
  simp [brace]

/-! ## Lines of a table -/

namespace TablePlan

theorem declaredTypes_recordLines (t : TablePlan) :
    t.recordLines.filterMap declaredType? = [t.typeName] := by
  have columns : ∀ c ∈ t.columns, c.fieldLines.filterMap declaredType? = [] := by
    intro c _
    have comment := filterMap_commentLines (f := declaredType?) (margin ++ "///") c.comment
      (by decide) (by decide) fun rest => declaredType?_of_startsApart (by decide)
    have field : StartsApart "pub struct " margin := by decide
    rw [ColumnPlan.fieldLines, List.filterMap_append, comment]
    simp only [String.append_assoc, List.filterMap_cons, List.filterMap_nil,
      declaredType?_of_startsApart field, List.append_nil]
  have relationships : (t.relationships.map RelationshipPlan.fieldLine).filterMap declaredType? =
      [] := by
    rw [List.filterMap_eq_nil_iff]
    intro line h
    obtain ⟨r, -, rfl⟩ := List.mem_map.mp h
    simp only [RelationshipPlan.fieldLine, String.append_assoc]
    exact declaredType?_of_startsApart (by decide)
  have comment := filterMap_commentLines (f := declaredType?) "///" t.comment
    (by decide) (by decide) fun rest => declaredType?_of_startsApart (by decide)
  have derived : declaredType? "#[derive(Debug, Clone, Default, PartialEq)]" = none := by decide
  have brace : declaredType? "\x7d" = none := by decide
  simp only [recordLines, List.filterMap_append, List.filterMap_flatMap, List.filterMap_cons,
    List.filterMap_nil, comment, derived, brace, declaredType?_record, relationships]
  simpa using columns

theorem declaredTypes_accessorLines (t : TablePlan) :
    t.accessorLines.filterMap declaredType? = [t.accessorName] := by
  have derived : declaredType? "#[derive(Debug, Clone, Copy, Default)]" = none := by decide
  have blank : declaredType? "" = none := by decide
  have methods : StartsApart "pub struct " "impl TableAccessor for " := by decide
  simp only [accessorLines, List.filterMap_append, List.filterMap_cons, List.filterMap_nil,
    derived, blank, declaredType?_accessor, declaredTypes_block methods, List.append_nil]

theorem declaredTypes_modelLines (t : TablePlan) :
    t.modelLines.filterMap declaredType? = [t.typeName, t.accessorName] := by
  have blank : declaredType? "" = none := by decide
  have encoder : t.encoderLines.filterMap declaredType? = [] := declaredTypes_block (by decide) _
  have decoder : t.decoderLines.filterMap declaredType? = [] := by
    rw [decoderLines]
    simp only [String.append_assoc]
    exact declaredTypes_block (by decide) _
  simp only [modelLines, List.filterMap_append, List.filterMap_cons, List.filterMap_nil, blank,
    declaredTypes_recordLines, encoder, decoder, declaredTypes_accessorLines]
  rfl

theorem declaredTypes_constantLines (t : TablePlan) :
    t.constantLines.filterMap declaredType? = [] := by
  have comment := filterMap_commentLines (f := declaredType?) "///" t.comment
    (by decide) (by decide) fun rest => declaredType?_of_startsApart (by decide)
  have description : StartsApart "pub struct " "/// Handle for `" := by decide
  have constant : StartsApart "pub struct " "pub const " := by decide
  simp only [constantLines, List.filterMap_append, String.append_assoc, List.filterMap_cons,
    List.filterMap_nil, comment, declaredType?_of_startsApart description,
    declaredType?_of_startsApart constant, List.append_nil]

end TablePlan

theorem Plan.declaredTypes_registryLines (p : Plan) :
    p.registryLines.filterMap declaredType? = [] := by
  have constants : p.tables.flatMap (fun t => t.constantLines.filterMap declaredType?) = [] := by
    simp [TablePlan.declaredTypes_constantLines]
  have entries : (p.tables.map TablePlan.registryEntry).filterMap declaredType? = [] := by
    rw [List.filterMap_eq_nil_iff]
    intro line h
    obtain ⟨t, -, rfl⟩ := List.mem_map.mp h
    simp only [TablePlan.registryEntry, String.append_assoc]
    exact declaredType?_of_startsApart (by decide)
  have static : ["", "/// Every table handle, keyed by handle name.",
      "pub static " ++ Naming.registry ++ ": &[(&str, &(dyn TableAccessor + Sync))] = &["
      ].filterMap declaredType? = [] := by
    decide
  have close : ["];"].filterMap declaredType? = [] := by decide
  simp only [registryLines, List.filterMap_append, List.filterMap_flatMap, constants, static,
    entries, close, List.append_nil]

theorem declaredTypes_importLines (s : Settings) :
    (importLines s).filterMap declaredType? = [] := by
  have unused : declaredType? unusedAllowed = none := by decide
  have dates : declaredType? "use chrono::\x7bNaiveDate, NaiveDateTime\x7d;" = none := by decide
  have decimals : declaredType? "use rust_decimal::Decimal;" = none := by decide
  have path : StartsApart "pub struct " "use " := by decide
  simp only [importLines, List.filterMap_cons, List.filterMap_nil, String.append_assoc, unused,
    dates, decimals, declaredType?_of_startsApart path]

/-- A model declares the record and the accessor of every table and no other type. -/
theorem Plan.declaredTypes_modelLines (p : Plan) (s : Settings) :
    (p.modelLines s).filterMap declaredType? = p.modelTypes := by
  have blank : declaredType? "" = none := by decide
  have header : [marker, ""].filterMap declaredType? = [] := by decide
  simp only [modelLines, List.filterMap_append, List.filterMap_flatMap, List.filterMap_cons,
    List.filterMap_nil, header, blank, declaredTypes_importLines, p.declaredTypes_registryLines,
    TablePlan.declaredTypes_modelLines, List.nil_append]
  rfl

/-! ## Types that are apart -/

theorem TablePlan.accessorName_ne_messageName (t u : TablePlan) :
    t.accessorName ≠ u.messageName :=
  EndsApart.append_ne (by decide) _ _

theorem TablePlan.accessorName_notMem_importedTypes (t : TablePlan) :
    t.accessorName ∉ importedTypes := by
  have apart : ∀ n ∈ importedTypes, EndsApart "Table" n := by decide
  intro imported
  exact (apart _ imported).append_ne t.typeName "" (String.empty_append).symm

theorem Plan.accessorNames_nodup {p : Plan}
    (distinct : (p.tables.map TablePlan.typeName).Nodup) :
    (p.tables.map TablePlan.accessorName).Nodup := by
  have appended : p.tables.map TablePlan.accessorName =
      (p.tables.map TablePlan.typeName).map (· ++ "Table") := by
    simp [TablePlan.accessorName]
  rw [appended]
  exact distinct.map fun _ _ => (String.append_left_inj _).mp

theorem Plan.modelTypes_nodup_iff {p : Plan} (distinct : (p.tables.map TablePlan.typeName).Nodup) :
    p.modelTypes.Nodup ↔ ∀ t ∈ p.tables, ∀ u ∈ p.tables, t.typeName ≠ u.accessorName := by
  have accessors := Plan.accessorNames_nodup distinct
  have order := List.map_append_flatMap_perm p.tables TablePlan.typeName
    fun t => [t.accessorName]
  rw [← List.map_eq_flatMap] at order
  rw [modelTypes, ← order.nodup_iff, List.nodup_append]
  simp only [distinct, accessors, true_and, List.forall_mem_map]

/-- **When the types of a model are apart.** The records and accessors that a model declares are
all different, and none of them is imported or is a message, exactly if no record has the name of
an accessor, of an import or of a message. -/
theorem Document.modelTypes_apart_iff {d : Document} {p : Plan} (h : d.resolve = .ok p)
    (s : Settings) :
    (p.modelLines s).filterMap declaredType? = p.modelTypes ∧
      (p.modelTypes.Nodup ∧ (∀ n ∈ p.modelTypes, n ∉ importedTypes) ∧
          (∀ n ∈ p.modelTypes, ∀ u ∈ p.tables, n ≠ u.messageName) ↔
        (∀ t ∈ p.tables, t.typeName ∉ importedTypes) ∧
          ∀ t ∈ p.tables, ∀ u ∈ p.tables,
            t.typeName ≠ u.accessorName ∧ t.typeName ≠ u.messageName) := by
  have distinct := (Document.wellFormed_of_resolve h).types_nodup
  refine ⟨p.declaredTypes_modelLines s, ?_⟩
  simp only [Plan.modelTypes_nodup_iff distinct]
  simp only [Plan.modelTypes, List.forall_mem_flatMap, List.forall_mem_cons, List.not_mem_nil,
    false_implies, implies_true, and_true, TablePlan.accessorName_notMem_importedTypes,
    not_false_eq_true, TablePlan.accessorName_ne_messageName, ne_eq]
  grind

theorem worldDocument_modelTypes_apart :
    ∃ p, worldDocument.resolve = .ok p ∧
      p.tables.map TablePlan.typeName = ["Customer", "Country", "Region"] ∧
      p.modelTypes.Nodup ∧ ∀ n ∈ p.modelTypes, n ∉ importedTypes := by
  obtain ⟨p, resolved, types⟩ := worldDocument_types
  have imports : ∀ n ∈ p.tables.map TablePlan.typeName, n ∉ importedTypes := by
    rw [types]
    decide
  have apart : ∀ n ∈ p.tables.map TablePlan.typeName, ∀ m ∈ p.tables.map TablePlan.typeName,
      n ≠ m ++ "Table" ∧ n ≠ Naming.message m := by
    rw [types]
    decide
  simp only [List.forall_mem_map] at imports apart
  have distinct := (Document.modelTypes_apart_iff resolved .initial).2.mpr ⟨imports, apart⟩
  exact ⟨p, resolved, types, distinct.1, distinct.2.1⟩

/-- Sales and the tables that they are made at. -/
def saleDocument : Document where
  databases := [
    ⟨"ORCL", [⟨"SH", [
      ⟨"SALES", "Sale", "Sales", none, [⟨"AMOUNT", "Amount", "NUMBER(10,2)", false, none, none⟩],
        []⟩,
      ⟨"SALE_TABLES", "SaleTable", "SaleTables", none,
        [⟨"PLACE", "Place", "VARCHAR2(20)", false, none, none⟩], []⟩]⟩]⟩]

/-- The accessor of sales takes the name of the other record. -/
theorem saleDocument_modelTypes_clash :
    ∃ p, saleDocument.resolve = .ok p ∧
      (p.modelLines .initial).filterMap declaredType? =
        ["Sale", "SaleTable", "SaleTable", "SaleTableTable"] := by
  have evaluated : saleDocument.resolve.toOption.map
      (fun p => (p.modelLines .initial).filterMap declaredType?) =
        some ["Sale", "SaleTable", "SaleTable", "SaleTableTable"] := by
    decide +kernel
  simpa only [Option.map_eq_some_iff, toOption_eq_some] using evaluated

end Tablecast
