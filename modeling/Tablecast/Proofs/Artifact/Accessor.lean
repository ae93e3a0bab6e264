import Tablecast.Proofs.Artifact.Moves
import Tablecast.Proofs.Text.Literal

/-!
# Accessors

An accessor answers for the names of a table in the database. It holds them as quoted text behind
the lines that name its own type, and in no other way, so its literals are these names in order.

* `linesBehind_append`: the lines behind the one that opens a part of the model,
* `TablePlan.linesHold_methodLines`: the literals of an accessor,
* `TablePlan.listedPairs_accessorLines`: the pairs of names that an accessor lists.
-/

namespace Tablecast

open Artifact Text

/-- The lines behind the first one that opens a part of the model. -/
def linesBehind (opening : String) (ls : List String) : List String :=
  (ls.dropWhile (· != opening)).tail

theorem linesBehind_append {opening : String} {before : List String} (first : opening ∉ before)
    (behind : List String) : linesBehind opening (before ++ opening :: behind) = behind := by
  have reached := dropWhile_append_mark (bne_of_notMem first) (bne_self_eq_false opening) behind
  rw [linesBehind, reached, List.tail_cons]

/-- The pair of quoted names that a line lists. -/
def namePair? (line : String) : Option (String × String) :=
  match line.toList with
  | '(' :: s => (literal? s).bind fun (field, rest) =>
    match rest with
    | ',' :: ' ' :: s => (literal? s).bind fun (column, rest) =>
      if rest = [')', ','] then some (field, column) else none
    | _ => none
  | _ => none

theorem namePair?_of_head {start : String}
    (other : start.toList.head?.any (· != '(') = true) (rest : String) :
    namePair? (start ++ rest) = none := by
  rw [namePair?, String.toList_append]
  cases same : start.toList with
  | nil =>
    rw [same] at other
    cases other
  | cons c tail =>
    rw [same] at other
    rw [List.cons_append]
    split
    · next parts =>
      rw [(List.cons.inj parts).1] at other
      cases other
    · rfl

theorem namePair?_quotes (field column : String) :
    namePair? ("(" ++ quote field ++ ", " ++ quote column ++ "),") = some (field, column) := by
  have chars : ("(" ++ quote field ++ ", " ++ quote column ++ "),").toList =
      '(' :: ((quote field).toList ++ ',' :: ' ' :: ((quote column).toList ++ [')', ','])) := by
    simp
  rw [namePair?, chars]
  simp only [literal?_quote, Option.bind_some, if_pos]

/-- The pairs that lines list, each line without its margin. -/
def listedPairs (ls : List String) : List (String × String) :=
  (ls.map unindented).filterMap namePair?

theorem listedPairs_append (ls ls' : List String) :
    listedPairs (ls ++ ls') = listedPairs ls ++ listedPairs ls' := by
  rw [listedPairs, List.map_append, List.filterMap_append]
  rfl

theorem listedPairs_indent (ls : List String) : listedPairs (indent ls) = listedPairs ls := by
  rw [listedPairs, map_unindented_indent]
  rfl

theorem listedPairs_of_head {start : String}
    (other : start.toList.head?.any (fun c => c != ' ' && c != '(') = true) (rest : String) :
    listedPairs [start ++ rest] = [] := by
  have solid : start.toList.head?.any (· != ' ') = true ∧
      start.toList.head?.any (· != '(') = true := by
    cases same : start.toList.head? with
    | none =>
      rw [same] at other
      cases other
    | some c =>
      rw [same] at other
      exact Bool.and_eq_true_iff.mp other
  rw [listedPairs, List.map_singleton, unindented_eq solid.1, List.filterMap_cons,
    namePair?_of_head solid.2]
  rfl

theorem listedPairs_block {head : String}
    (other : head.toList.head?.any (fun c => c != ' ' && c != '(') = true) (body : List String) :
    listedPairs (block head body) = listedPairs body := by
  have brace : listedPairs ["\x7d"] = [] := by decide
  have lines : block head body = [head ++ " \x7b"] ++ indent body ++ ["\x7d"] := rfl
  rw [lines, listedPairs_append, listedPairs_append, listedPairs_of_head other, listedPairs_indent,
    brace, List.append_nil, List.nil_append]

theorem exists_quote (s : String) : ∃ rest, quote s = "\"" ++ rest := by
  refine ⟨.ofList (s.toList.flatMap escape ++ ['"']), ?_⟩
  rw [← String.toList_inj, quote, String.toList_append, String.toList_ofList, String.toList_ofList]
  simp

theorem literals?_intercalate (texts : List String) :
    literals? (", ".intercalate (texts.map quote)) = some texts := by
  have comma : literals? ", " = some [] := by decide
  induction texts with
  | nil => decide
  | cons first texts ih =>
    cases texts with
    | nil => rw [List.map_singleton, String.intercalate_singleton, literals?_quote]
    | cons second texts =>
      rw [List.map_cons] at ih
      rw [List.map_cons, List.map_cons, String.intercalate_cons_cons, String.append_assoc,
        literals?_append (literals?_quote first), literals?_append comma, ih]
      rfl

namespace TablePlan

variable (t : TablePlan)

/-- The line that opens the methods of an accessor. -/
def methodsOpening : String := "impl TableAccessor for " ++ t.accessorName ++ " \x7b"

/-- An accessor behind the lines that name its type. -/
def methodLines : List String := linesBehind t.methodsOpening t.accessorLines

/-- What an accessor quotes: the table and its schema, the field and the column of every column, and
the columns that the database fills itself. -/
def quotedNames : List String :=
  t.storageName :: t.schemaName ::
    (t.columns.flatMap fun c => [Naming.field c.fieldName, c.storageName]) ++
      t.generatedColumns.map ColumnPlan.storageName

theorem literals?_namePair (c : ColumnPlan) :
    literals? (namePair c) = some [Naming.field c.fieldName, c.storageName] := by
  have opens : literals? "(" = some [] := by decide
  have comma : literals? ", " = some [] := by decide
  have closes : literals? ")," = some [] := by decide
  simp only [namePair, String.append_assoc]
  rw [literals?_append opens, literals?_append (literals?_quote _), literals?_append comma,
    literals?_append (literals?_quote _), closes]
  rfl

theorem literals?_generated :
    literals? ("&[" ++ ", ".intercalate (t.generatedColumns.map fun c => quote c.storageName) ++
      "]") = some (t.generatedColumns.map ColumnPlan.storageName) := by
  have opens : literals? "&[" = some [] := by decide
  have closes : literals? "]" = some [] := by decide
  have names : t.generatedColumns.map (fun c => quote c.storageName) =
      (t.generatedColumns.map ColumnPlan.storageName).map quote := by
    rw [List.map_map]
    rfl
  rw [String.append_assoc, literals?_append opens, names,
    literals?_append (literals?_intercalate _), closes]
  simp

/-- What stands between the braces of an accessor, without its margin. -/
def methods : List String :=
  block "fn table_name(&self) -> &'static str" [quote t.storageName] ++ [""] ++
  block "fn schema_name(&self) -> &'static str" [quote t.schemaName] ++ [""] ++
  block "fn fields(&self) -> &'static [(&'static str, &'static str)]"
    (["&["] ++ indent (t.columns.map namePair) ++ ["]"]) ++ [""] ++
  block "fn database_generated(&self) -> &'static [&'static str]"
    ["&[" ++ ", ".intercalate (t.generatedColumns.map fun c => quote c.storageName) ++ "]"]

theorem accessorLines_eq :
    t.accessorLines =
      ["#[derive(Debug, Clone, Copy, Default)]", "pub struct " ++ t.accessorName ++ ";", ""] ++
        t.methodsOpening :: (indent t.methods ++ ["\x7d"]) := by
  have opened (head : String) (body : List String) :
      block head body = (head ++ " \x7b") :: (indent body ++ ["\x7d"]) := rfl
  unfold accessorLines methodsOpening methods
  rw [opened ("impl TableAccessor for " ++ t.accessorName)]

theorem methodLines_eq : t.methodLines = indent t.methods ++ ["\x7d"] := by
  have first : t.methodsOpening ∉
      ["#[derive(Debug, Clone, Copy, Default)]", "pub struct " ++ t.accessorName ++ ";", ""] := by
    unfold methodsOpening
    generalize t.accessorName = name
    have letters : ∀ line ∈
        ["#[derive(Debug, Clone, Copy, Default)]", "pub struct " ++ name ++ ";", ""],
        line.toList.head? ≠ ("impl TableAccessor for " ++ name ++ " \x7b").toList.head? := by
      simp
    exact fun h => letters _ h rfl
  rw [methodLines, accessorLines_eq, linesBehind_append first]

theorem linesHold_methods : LinesHold t.methods t.quotedNames := by
  have blank : LinesHold [""] [] := .silent (by decide)
  have table : LinesHold (block "fn table_name(&self) -> &'static str" [quote t.storageName])
      [t.storageName] := .block (by decide) (.singleton (literals?_quote _))
  have schema : LinesHold (block "fn schema_name(&self) -> &'static str" [quote t.schemaName])
      [t.schemaName] := .block (by decide) (.singleton (literals?_quote _))
  have opens : LinesHold ["&["] [] := .silent (by decide)
  have closes : LinesHold ["]"] [] := .silent (by decide)
  have pairs := (LinesHold.map t.columns fun c _ => literals?_namePair c).indent
  have fields : LinesHold (block "fn fields(&self) -> &'static [(&'static str, &'static str)]"
      (["&["] ++ indent (t.columns.map namePair) ++ ["]"])) _ :=
    .block (by decide) ((opens.append pairs).append closes)
  have generated : LinesHold (block "fn database_generated(&self) -> &'static [&'static str]"
      ["&[" ++ ", ".intercalate (t.generatedColumns.map fun c => quote c.storageName) ++ "]"]) _ :=
    .block (by decide) (.singleton t.literals?_generated)
  have whole := (((((table.append blank).append schema).append blank).append fields).append
    blank).append generated
  simpa [methods, quotedNames] using whole

theorem linesHold_methodLines : LinesHold t.methodLines t.quotedNames := by
  have brace : LinesHold ["\x7d"] [] := .silent (by decide)
  have whole := t.linesHold_methods.indent.append brace
  rwa [← methodLines_eq, List.append_nil] at whole

theorem listedPairs_namePairs (columns : List ColumnPlan) :
    listedPairs (columns.map namePair) =
      columns.map fun c => (Naming.field c.fieldName, c.storageName) := by
  rw [listedPairs, List.map_map, List.filterMap_map, ← List.filterMap_eq_map]
  apply List.filterMap_congr
  intro c _
  have solid : unindented (namePair c) = namePair c := by
    simp only [namePair, String.append_assoc]
    exact unindented_eq (by decide) _
  rw [Function.comp_apply, Function.comp_apply, solid, namePair, namePair?_quotes]
  rfl

/-- **The fields that an accessor lists** are its columns, each by its name in messages and its name
in the database. -/
theorem listedPairs_accessorLines :
    listedPairs t.accessorLines =
      t.columns.map fun c => (Naming.field c.fieldName, c.storageName) := by
  have blank : listedPairs [""] = [] := by decide
  have brace : listedPairs ["\x7d"] = [] := by decide
  have opens : listedPairs ["&["] = [] := by decide
  have closes : listedPairs ["]"] = [] := by decide
  have derived : listedPairs ["#[derive(Debug, Clone, Copy, Default)]"] = [] := by decide
  have struct : listedPairs ["pub struct " ++ (t.accessorName ++ ";")] = [] :=
    listedPairs_of_head (by decide) _
  have methods : listedPairs ["impl TableAccessor for " ++ (t.accessorName ++ " \x7b")] = [] :=
    listedPairs_of_head (by decide) _
  have quoted (s : String) : listedPairs [quote s] = [] := by
    obtain ⟨rest, same⟩ := exists_quote s
    rw [same]
    exact listedPairs_of_head (by decide) rest
  have generated (names : String) : listedPairs ["&[" ++ names ++ "]"] = [] := by
    rw [String.append_assoc]
    exact listedPairs_of_head (by decide) _
  have lines : t.accessorLines = ["#[derive(Debug, Clone, Copy, Default)]"] ++
      ["pub struct " ++ (t.accessorName ++ ";")] ++ [""] ++
      ["impl TableAccessor for " ++ (t.accessorName ++ " \x7b")] ++ indent t.methods ++
      ["\x7d"] := by
    rw [accessorLines_eq]
    unfold methodsOpening
    rw [String.append_assoc, String.append_assoc]
    simp only [List.cons_append, List.nil_append]
  rw [lines]
  simp only [listedPairs_append, listedPairs_indent, derived, struct, blank, methods, brace,
    TablePlan.methods]
  rw [listedPairs_block (by decide), listedPairs_block (by decide), listedPairs_block (by decide),
    listedPairs_block (by decide)]
  simp only [listedPairs_append, listedPairs_indent, quoted, generated, opens, closes,
    listedPairs_namePairs, List.nil_append, List.append_nil]

end TablePlan

end Tablecast
