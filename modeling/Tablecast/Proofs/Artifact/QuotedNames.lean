import Tablecast.Proofs.Artifact.Registry

/-!
# Quoted names

Names that generated code compares or looks up at run time are quoted: the names of tables, schemas
and columns in an accessor, and the handles in the registry. They may be any text, and the literals
of the code are these texts again, in order. The names of types and constants are written as they
are, so the line that names the type of an accessor is read only if that name has no marks of its
own.

* `Plan.linesHold_registry`: the literals of a registry,
* `Document.quotedNames_read_back`: those of all accessors and of the registry.
-/

namespace Tablecast

open Artifact Text

/-! ## The registry -/

theorem TablePlan.literals?_registryEntry (t : TablePlan) :
    literals? t.registryEntry = some [t.handleName] := by
  have opens : literals? "    (" = some [] := by decide
  have behind : literals? (", &" ++ (t.constantName ++ "),")) = some [] := by
    have name : '"' ∉ t.constantName.toList := notMem_constant t.handleName (by decide)
    have signs : '"' ∉ ", &".toList ∧ '"' ∉ "),".toList := by decide
    apply literals?_of_notMem
    simp only [String.toList_append, List.mem_append, signs, name, or_self, not_false_eq_true]
  simp only [registryEntry, String.append_assoc]
  rw [literals?_append opens, literals?_append (literals?_quote _), behind]
  rfl

theorem Plan.linesHold_registry (p : Plan) :
    LinesHold (linesBehind registryOpening p.registryLines)
      (p.tables.map TablePlan.handleName) := by
  have entries := LinesHold.map p.tables fun t _ => t.literals?_registryEntry
  have closing : LinesHold ["];"] [] := .silent (by decide)
  rw [p.linesBehind_registryLines, List.map_eq_flatMap (f := TablePlan.handleName)]
  have whole := entries.append closing
  rwa [List.append_nil] at whole

/-! ## Accessors -/

/-- Two lines of an accessor name its type, and they hold the literals that this name holds. -/
theorem TablePlan.linesHold_accessorLines {t : TablePlan} {texts : List String}
    (whole : literals? t.typeName = some texts) :
    LinesHold t.accessorLines (texts ++ texts ++ t.quotedNames) := by
  have accessor (rest : String) (silent : literals? ("Table" ++ rest) = some []) :
      literals? (t.accessorName ++ rest) = some texts := by
    rw [accessorName, String.append_assoc, literals?_append whole, silent]
    simp
  have structHead : literals? "pub struct " = some [] := by decide
  have implHead : literals? "impl TableAccessor for " = some [] := by decide
  have derived : LinesHold ["#[derive(Debug, Clone, Copy, Default)]"] [] := .silent (by decide)
  have blank : LinesHold [""] [] := .silent (by decide)
  have struct : LinesHold ["pub struct " ++ t.accessorName ++ ";"] texts := by
    apply LinesHold.singleton
    rw [String.append_assoc, literals?_append structHead, accessor ";" (by decide)]
    rfl
  have opening : LinesHold [t.methodsOpening] texts := by
    apply LinesHold.singleton
    unfold methodsOpening
    rw [String.append_assoc, literals?_append implHead, accessor " \x7b" (by decide)]
    rfl
  have lines := ((derived.append struct).append blank).append
    (opening.append t.linesHold_methodLines)
  rw [methodLines_eq] at lines
  rw [accessorLines_eq]
  simpa using lines

/-- What the accessor of a table quotes. -/
def PlacedTable.quotedNames (x : PlacedTable) : List String :=
  x.table.name :: x.schema ::
    (x.table.columns.flatMap fun c => [Naming.field c.fieldName, c.name]) ++
      (x.table.columns.filter Column.isDatabaseGenerated).map Column.name

theorem TablePlan.Mirrors.generatedColumns {t : TablePlan} {x : PlacedTable} (h : t.Mirrors x) :
    List.Forall₂ ColumnPlan.Mirrors t.generatedColumns
      (x.table.columns.filter Column.isDatabaseGenerated) := by
  apply List.rel_filter _ h.columns
  intro q c mirrors
  exact iff_of_eq (congrArg (· = true) mirrors.databaseGenerated)

theorem TablePlan.Mirrors.quotedNames_eq {t : TablePlan} {x : PlacedTable} (h : t.Mirrors x) :
    t.quotedNames = x.quotedNames := by
  have pairs : t.columns.map (fun q => [Naming.field q.fieldName, q.storageName]) =
      x.table.columns.map fun c => [Naming.field c.fieldName, c.name] := by
    apply map_eq_map_of_forall₂ _ _ _ h.columns
    intro q c mirrors
    rw [mirrors.fieldName, mirrors.storageName]
  have generated := map_eq_map_of_forall₂ ColumnPlan.storageName Column.name
    (fun _ _ => ColumnPlan.Mirrors.storageName) h.generatedColumns
  rw [TablePlan.quotedNames, PlacedTable.quotedNames, List.flatMap_def, List.flatMap_def, pairs,
    generated, h.storageName, h.schemaName]

/-! ## A whole document -/

/-- **Quoted names read back.** The literals of an accessor behind the line that names its type are
the table and its schema, the field and the column of every column, and the columns that the
database fills itself; those of the registry are the handles. If the name of the type opens no
literal, single character or comment, the accessor has no other literals. Every single literal ends
where it was closed, whatever its text is and whatever stands behind it, and it holds no line
feed. -/
theorem Document.quotedNames_read_back {d : Document} {p : Plan} (resolved : d.resolve = .ok p) :
    List.Forall₂
        (fun t x => literals? (textOfLines t.methodLines) = some x.quotedNames ∧
          (IsUnmarked x.table.className →
            literals? (textOfLines t.accessorLines) = some x.quotedNames))
        p.tables d.placed ∧
      literals? (textOfLines (linesBehind registryOpening p.registryLines)) =
        some (d.placed.map fun x => x.table.handleName) ∧
      ∀ text rest, literal? ((quote text).toList ++ rest) = some (text, rest) ∧
        IsLine (quote text) := by
  have mirrors := Document.mirrors_of_resolve resolved
  have handles := map_eq_map_of_forall₂ TablePlan.handleName (fun x => x.table.handleName)
    (fun _ _ => TablePlan.Mirrors.handleName) mirrors
  refine ⟨mirrors.imp ?_, ?_, fun text rest => ⟨literal?_quote text rest, isLine_quote text⟩⟩
  · intro t x h
    rw [← h.quotedNames_eq]
    refine ⟨t.linesHold_methodLines.literals?_textOfLines, ?_⟩
    rintro ⟨plain, -⟩
    rw [← h.typeName] at plain
    have silent := literals?_of_notMem plain
    exact (TablePlan.linesHold_accessorLines silent).literals?_textOfLines
  · rw [← handles]
    exact p.linesHold_registry.literals?_textOfLines

/-- A table whose names hold quotation marks, backslashes, line feeds and control characters. -/
def markedDocument : Document where
  databases := [
    ⟨"ORCL", [⟨"S\\H\"", [
      ⟨"\"),\n//", "Region", "Re\"gions\\", none,
        [⟨"NA\tME", "Name", "VARCHAR2(20)", false, none, none⟩,
          ⟨"\x07\r'", "Seen", "DATE", true, some "current_timestamp()", none⟩], []⟩]⟩]⟩]

theorem markedDocument_reads_back :
    ∃ p, markedDocument.resolve = .ok p ∧ p.tables.length = 1 ∧
      (∀ t ∈ p.tables, literals? (textOfLines t.accessorLines) =
        some ["\"),\n//", "S\\H\"", "name", "NA\tME", "seen", "\x07\r'", "\x07\r'"]) ∧
      literals? (textOfLines (linesBehind registryOpening p.registryLines)) =
        some ["Re\"gions\\"] := by
  have accepted : markedDocument.resolve.toOption.isSome := by decide +kernel
  obtain ⟨p, resolved⟩ := Option.isSome_iff_exists.mp accepted
  rw [toOption_eq_some] at resolved
  have names : ∀ x ∈ markedDocument.placed, IsUnmarked x.table.className ∧ x.quotedNames =
      ["\"),\n//", "S\\H\"", "name", "NA\tME", "seen", "\x07\r'", "\x07\r'"] := by
    decide +kernel
  obtain ⟨accessors, handles, -⟩ := Document.quotedNames_read_back resolved
  refine ⟨p, resolved, accessors.length_eq, ?_, handles⟩
  intro t ht
  obtain ⟨x, hx, -, whole⟩ := exists_of_mem_forall₂ accessors ht
  obtain ⟨plain, same⟩ := names x hx
  rw [whole plain, same]

/-- The regions, with a type of any name. -/
def typeDocument (typeName : String) : Document where
  databases := [
    ⟨"ORCL", [⟨"SH", [
      ⟨"REGIONS", typeName, "Regions", none,
        [⟨"NAME", "Name", "VARCHAR2(20)", false, none, none⟩], []⟩]⟩]⟩]

/-- A type whose name holds a literal brings it into the accessor, twice. -/
theorem typeDocument_not_read_back :
    ∃ p, (typeDocument "Region\"x\"").resolve = .ok p ∧
      (typeDocument "Region\"x\"").placed.map PlacedTable.quotedNames =
        [["REGIONS", "SH", "name", "NAME"]] ∧
      p.tables.map (fun t => literals? (textOfLines t.accessorLines)) =
        [some ["x", "x", "REGIONS", "SH", "name", "NAME"]] := by
  have evaluated : (typeDocument "Region\"x\"").resolve.toOption.map
      (fun p => p.tables.map fun t => (literals? t.typeName, t.quotedNames)) =
      some [(some ["x"], ["REGIONS", "SH", "name", "NAME"])] := by
    decide +kernel
  simp only [Option.map_eq_some_iff, toOption_eq_some, List.map_eq_singleton_iff,
    Prod.mk.injEq] at evaluated
  obtain ⟨p, resolved, t, alone, type, names⟩ := evaluated
  have accessor := (TablePlan.linesHold_accessorLines type).literals?_textOfLines
  refine ⟨p, resolved, by decide +kernel, ?_⟩
  rw [alone, List.map_singleton, accessor, names]
  rfl

end Tablecast
