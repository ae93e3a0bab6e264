import Tablecast.Proofs.Artifact.Accessor
import Tablecast.Proofs.Artifact.Description
import Tablecast.Proofs.Artifact.ModelNames
import Tablecast.Proofs.Text.Capitals

/-!
# The registry of a model

The registry declares one constant for every table, bound to the accessor of the table, and lists
the constants by their handles. Its constants, the list itself and the accessors share one name
space: validation keeps the constants apart from one another and from the list, and an accessor
has small letters, which no constant has.

* `Plan.code_registryLines`: the lines of a registry that are no comments,
* `Plan.entries_registryLines`: what it lists,
* `Document.valueNames_nodup`: the names in the name space of values,
* `Plan.lines_registryText_iff`: when the text of a registry falls into these lines,
* `Document.registry_declares_iff`: all of it for an accepted document.
-/

namespace Tablecast

open Artifact Text

/-! ## Constants -/

/-- A constant with its type and its value as they are written. -/
structure DeclaredConstant where
  name : String
  definition : String
  deriving DecidableEq

/-- The constant that a line declares. -/
def constant? (line : String) : Option DeclaredConstant :=
  (nameBehind? "pub const " line).bind fun name =>
    (between? ("pub const " ++ name ++ ": ") ";" line).map (⟨name, ·⟩)

theorem constant?_of_startsApart {start : String} (apart : StartsApart "pub const " start)
    (rest : String) : constant? (start ++ rest) = none := by
  rw [constant?, nameBehind?_of_startsApart apart]
  rfl

theorem constant?_declaration {name : String} (h : IsIdent name) (definition : String) :
    constant? ("pub const " ++ name ++ ": " ++ definition ++ ";") = some ⟨name, definition⟩ := by
  have named : nameBehind? "pub const " ("pub const " ++ name ++ ": " ++ definition ++ ";") =
      some name := by
    rw [String.append_assoc]
    exact nameBehind?_declaration h _
  rw [constant?, named, Option.bind_some, between?_eq_some.mpr rfl]
  rfl

theorem constant?_descriptionLine (schema table database : String) :
    constant? (descriptionLine schema table database) = none := by
  unfold descriptionLine
  simp only [String.append_assoc]
  exact constant?_of_startsApart (by decide) _

/-- A name in capitals holds nothing from before the digits, and no sign between the digits and the
letters. -/
theorem notMem_constant {c : Char} (handleName : String)
    (other : ¬((isAlphanumeric c = true ∨ 0x40 < c.toNat) ∧ IsNoSmallLetter c.toNat)) :
    c ∉ (Naming.constant handleName).toList :=
  fun h => other (mem_upperSnakeCase h)

theorem isIdent_constant (handleName : String) : IsIdent (Naming.constant handleName) := by
  intro c hc
  rw [← Bool.not_eq_true, endsIdent, List.contains_iff_mem]
  intro stop
  simp only [List.mem_cons, List.not_mem_nil, or_false] at stop
  rcases stop with rfl | rfl | rfl | rfl | rfl <;> exact notMem_constant _ (by decide) hc

theorem isLine_constant (handleName : String) : IsLine (Naming.constant handleName) :=
  notMem_constant handleName (by decide)

namespace TablePlan

variable (t : TablePlan)

def constant : DeclaredConstant := ⟨t.constantName, t.accessorName ++ " = " ++ t.accessorName⟩

/-- The line that declares the constant of a table. -/
def constantLine : String :=
  "pub const " ++ t.constantName ++ ": " ++ t.accessorName ++ " = " ++ t.accessorName ++ ";"

/-- The line above it. -/
def description : String := descriptionLine t.schemaName t.storageName t.databaseName

theorem constantLines_eq :
    t.constantLines = commentLines t.comment "///" ++ [t.description, t.constantLine] := rfl

theorem constant?_constantLine : constant? t.constantLine = some t.constant := by
  have line : t.constantLine = "pub const " ++ t.constantName ++ ": " ++
      (t.accessorName ++ " = " ++ t.accessorName) ++ ";" := by
    unfold constantLine
    simp only [String.append_assoc]
  rw [line]
  exact constant?_declaration (isIdent_constant t.handleName) _

theorem constants_comment : (commentLines t.comment "///").filterMap constant? = [] :=
  filterMap_commentLines "///" t.comment (by decide) (by decide)
    (constant?_of_startsApart (by decide))

theorem constants_constantLines : t.constantLines.filterMap constant? = [t.constant] := by
  have description : constant? t.description = none := constant?_descriptionLine _ _ _
  rw [constantLines_eq, List.filterMap_append, constants_comment, List.filterMap_cons, description]
  simp only [List.filterMap_cons, constant?_constantLine, List.filterMap_nil, List.nil_append]

theorem code_constantLines : t.constantLines.filter (!isComment ·) = [t.constantLine] := by
  have comment : (commentLines t.comment "///").filter (!isComment ·) = [] :=
    filter_commentLines (by decide) (by decide) (by decide) t.comment
  have description : isComment t.description = true := isComment_descriptionLine _ _ _
  have code : isComment t.constantLine = false := by
    unfold constantLine
    simp only [String.append_assoc]
    exact isComment_append_eq (by decide) _
  rw [constantLines_eq, List.filter_append, comment]
  simp only [List.filter_cons, List.filter_nil, description, code]
  rfl

end TablePlan

/-! ## The list -/

/-- The line that opens the list of tables. -/
def registryOpening : String :=
  "pub static " ++ Naming.registry ++ ": &[(&str, &(dyn TableAccessor + Sync))] = &["

theorem constant?_registryOpening : constant? registryOpening = none := by
  unfold registryOpening
  rw [String.append_assoc]
  exact constant?_of_startsApart (by decide) _

theorem isLine_registryOpening : IsLine registryOpening := by decide

/-- The handle that a line lists, and the constant that it refers to. -/
def listedTable? (line : String) : Option (String × String) :=
  match (unindented line).toList with
  | '(' :: s => (literal? s).bind fun (handle, rest) =>
    (between? ", &" ")," (.ofList rest)).map (handle, ·)
  | _ => none

theorem listedTable?_registryEntry (t : TablePlan) :
    listedTable? t.registryEntry = some (t.handleName, t.constantName) := by
  have line : t.registryEntry =
      margin ++ ("(" ++ (quote t.handleName ++ (", &" ++ t.constantName ++ "),"))) := by
    have start : "    (" = margin ++ "(" := by decide
    simp only [TablePlan.registryEntry, start, String.append_assoc]
  have chars : (unindented t.registryEntry).toList =
      '(' :: ((quote t.handleName).toList ++ (", &" ++ t.constantName ++ "),").toList) := by
    have parenthesis : "(".toList = ['('] := by decide
    rw [line, unindented_margin, unindented_eq (by decide), String.toList_append, parenthesis,
      List.singleton_append, String.toList_append]
  have constant : between? ", &" ")," (", &" ++ t.constantName ++ "),") = some t.constantName :=
    between?_eq_some.mpr rfl
  rw [listedTable?, chars]
  simp only [literal?_quote, Option.bind_some, String.ofList_toList, constant, Option.map_some]

namespace Plan

variable (p : Plan)

theorem registryLines_eq :
    p.registryLines = (p.tables.flatMap TablePlan.constantLines ++
        ["", "/// Every table handle, keyed by handle name."]) ++
      registryOpening :: (p.tables.map TablePlan.registryEntry ++ ["];"]) := by
  unfold registryLines registryOpening
  simp only [List.append_assoc, List.cons_append, List.nil_append]

/-- Every line in front of the list begins like a comment or like a constant. -/
theorem linesBehind_registryLines :
    linesBehind registryOpening p.registryLines =
      p.tables.map TablePlan.registryEntry ++ ["];"] := by
  have other {start : String} (apart : StartsApart "pub static " start) (rest : String) :
      registryOpening ≠ start ++ rest := by
    unfold registryOpening
    rw [String.append_assoc]
    exact apart.append_ne _ _
  have constants : registryOpening ∉ p.tables.flatMap TablePlan.constantLines := by
    intro h
    obtain ⟨t, -, opening⟩ := List.mem_flatMap.mp h
    rw [t.constantLines_eq, List.mem_append] at opening
    rcases opening with comment | lines
    · obtain ⟨-, rest, same⟩ := mem_commentLines (by decide) (by decide) comment
      exact other (by decide) rest same
    · unfold TablePlan.description descriptionLine TablePlan.constantLine at lines
      simp only [String.append_assoc, List.mem_cons, List.not_mem_nil, or_false] at lines
      exact lines.elim (other (by decide) _) (other (by decide) _)
  have head : registryOpening ∉ ["", "/// Every table handle, keyed by handle name."] := by decide
  rw [registryLines_eq, linesBehind_append]
  rw [List.mem_append]
  exact not_or.mpr ⟨constants, head⟩

/-- **The list of a registry** has one entry for every table: its handle, and its constant. -/
theorem entries_registryLines :
    (linesBehind registryOpening p.registryLines).filterMap listedTable? =
      p.tables.map fun t => (t.handleName, t.constantName) := by
  have closing : listedTable? "];" = none := by decide
  have entries : (p.tables.map TablePlan.registryEntry).filterMap listedTable? =
      p.tables.map fun t => (t.handleName, t.constantName) := by
    rw [List.filterMap_map, ← List.filterMap_eq_map]
    apply List.filterMap_congr
    intro t _
    rw [Function.comp_apply, Function.comp_apply, listedTable?_registryEntry]
  rw [linesBehind_registryLines, List.filterMap_append, entries, List.filterMap_cons, closing,
    List.filterMap_nil, List.append_nil]

/-- **The code of a registry** is one line for the constant of every table, and the list. -/
theorem code_registryLines :
    p.registryLines.filter (!isComment ·) =
      p.tables.map TablePlan.constantLine ++
        "" :: registryOpening :: (p.tables.map TablePlan.registryEntry ++ ["];"]) := by
  have constants : (p.tables.flatMap TablePlan.constantLines).filter (!isComment ·) =
      p.tables.map TablePlan.constantLine := by
    rw [List.filter_flatMap, List.map_eq_flatMap]
    apply List.flatMap_congr
    intro t _
    exact t.code_constantLines
  have head : ["", "/// Every table handle, keyed by handle name."].filter (!isComment ·) =
      [""] := by
    decide
  have opening : isComment registryOpening = false := by decide
  have entries : (p.tables.map TablePlan.registryEntry).filter (!isComment ·) =
      p.tables.map TablePlan.registryEntry := by
    rw [List.filter_eq_self]
    intro line h
    obtain ⟨t, -, rfl⟩ := List.mem_map.mp h
    have start : isComment "    (\"" = false := by decide
    obtain ⟨rest, quoted⟩ := exists_quote t.handleName
    have whole : t.registryEntry = "    (\"" ++ (rest ++ (", &" ++ t.constantName ++ "),")) := by
      simp only [TablePlan.registryEntry, quoted, ← String.append_assoc]
      rfl
    rw [whole, isComment_append_eq (by decide), start]
    rfl
  have closing : ["];"].filter (!isComment ·) = ["];"] := by decide
  rw [registryLines_eq, List.filter_append, List.filter_append, constants, head, List.filter_cons,
    opening, List.filter_append, entries, closing, List.append_assoc]
  rfl

theorem constants_registryLines :
    p.registryLines.filterMap constant? = p.tables.map TablePlan.constant := by
  have constants : (p.tables.flatMap TablePlan.constantLines).filterMap constant? =
      p.tables.map TablePlan.constant := by
    rw [List.filterMap_flatMap, List.map_eq_flatMap]
    apply List.flatMap_congr
    intro t _
    exact t.constants_constantLines
  have head : ["", "/// Every table handle, keyed by handle name."].filterMap constant? = [] := by
    decide
  have closing : constant? "];" = none := by decide
  have entries : (p.tables.map TablePlan.registryEntry).filterMap constant? = [] := by
    rw [List.filterMap_eq_nil_iff]
    intro line h
    obtain ⟨t, -, rfl⟩ := List.mem_map.mp h
    simp only [TablePlan.registryEntry, String.append_assoc]
    exact constant?_of_startsApart (by decide) _
  simp only [registryLines_eq, List.filterMap_append, List.filterMap_cons, List.filterMap_nil,
    constants, head, constant?_registryOpening, entries, closing, List.append_nil]

end Plan

/-! ## The name space of values -/

/-- A name of a value that is all in capitals is no name of an accessor. -/
theorem TablePlan.accessorName_ne {name : String} (capital : 'a' ∉ name.toList) (t : TablePlan) :
    name ≠ t.accessorName := by
  rintro rfl
  apply capital
  rw [accessorName, String.toList_append, List.mem_append]
  exact .inr (by decide)

/-- The constants of a registry, its list and the accessors of all tables have different names. -/
theorem Document.valueNames_nodup {d : Document} {p : Plan} (resolved : d.resolve = .ok p) :
    (p.tables.map TablePlan.constantName ++
      Naming.registry :: p.tables.map TablePlan.accessorName).Nodup := by
  obtain ⟨valid, -⟩ := Document.resolve_eq_ok.mp resolved
  have consistent := Document.validate_eq_ok.mp valid
  have constants : p.tables.map TablePlan.constantName =
      d.placed.map fun x => Naming.constant x.table.handleName :=
    map_eq_map_of_forall₂ _ _ (fun t x mirrors => by
      rw [TablePlan.constantName, mirrors.handleName]) (Document.mirrors_of_resolve resolved)
  have types := (Document.wellFormed_of_resolve resolved).types_nodup
  have listApart : Naming.registry ∉ p.tables.map TablePlan.accessorName := by
    intro h
    obtain ⟨t, -, same⟩ := List.mem_map.mp h
    exact t.accessorName_ne (by decide) same.symm
  -- validation compares constants only; from an accessor they differ by its small letters
  rw [List.nodup_append, List.nodup_cons, constants]
  refine ⟨consistent.constants_nodup, ⟨listApart, Plan.accessorNames_nodup types⟩, ?_⟩
  intro constant hc name hn
  obtain ⟨x, hx, rfl⟩ := List.mem_map.mp hc
  rcases List.mem_cons.mp hn with rfl | accessor
  · exact consistent.constant_ne_registry x hx
  · obtain ⟨t, -, rfl⟩ := List.mem_map.mp accessor
    exact t.accessorName_ne (notMem_constant _ (by decide))

/-! ## The text of a registry -/

/-- The constants that a text declares, line by line. One is seen only if it begins its line and
ends it: not behind blanks, and not behind another one on the same line. Nor is it seen that a
comment that was opened between marks holds the line. So this is how the text is read only where no
name that is written as it is brings such things about. -/
def constantsIn (text : String) : List DeclaredConstant := (lines text).filterMap constant?

/-- Letters, digits and underscores, and beyond ASCII anything but blanks. Every identifier is such
a word, and no word ends a declaration or opens a comment. -/
def IsWord (s : String) : Prop :=
  ∀ c ∈ s.toList, c.isAlphanum = true ∨ c = '_' ∨ 0x80 ≤ c.toNat ∧ isBlank c = false

instance (s : String) : Decidable (IsWord s) := List.decidableBAll _ _

theorem IsWord.isLine {s : String} (word : IsWord s) : IsLine s := by
  intro feed
  have other : ¬('\n'.isAlphanum = true ∨ '\n' = '_' ∨
      0x80 ≤ '\n'.toNat ∧ isBlank '\n' = false) := by
    decide
  exact other (word _ feed)

namespace TablePlan

variable (t : TablePlan)

theorem isLine_constantLine_iff : IsLine t.constantLine ↔ IsLine t.typeName := by
  have signs : IsLine "pub const " ∧ IsLine ": " ∧ IsLine " = " ∧ IsLine ";" ∧ IsLine "Table" := by
    decide
  have name : IsLine t.constantName := isLine_constant t.handleName
  unfold constantLine accessorName
  simp only [isLine_append, signs, name, true_and, and_true, and_self]

theorem isLine_registryEntry : IsLine t.registryEntry := by
  have signs : IsLine "    (" ∧ IsLine ", &" ∧ IsLine ")," := by decide
  have name : IsLine t.constantName := isLine_constant t.handleName
  unfold registryEntry
  simp only [isLine_append, signs, name, isLine_quote, and_self]

theorem isLine_constantLines_iff :
    (∀ line ∈ t.constantLines, IsLine line) ↔ IsLine t.description ∧ IsLine t.typeName := by
  have comment : ∀ line ∈ commentLines t.comment "///", IsLine line :=
    fun line h => (mem_commentLines (by decide) (by decide) h).1
  rw [constantLines_eq, List.forall_mem_append, List.forall_mem_cons, List.forall_mem_singleton,
    isLine_constantLine_iff]
  exact and_iff_right comment

end TablePlan

namespace Plan

variable (p : Plan)

def registryText : String := textOfLines p.registryLines

theorem registryLines_ne_nil : p.registryLines ≠ [] := by
  rw [registryLines_eq]
  exact List.append_ne_nil_of_right_ne_nil _ (List.cons_ne_nil _ _)

/-- The text of a registry is a part of the model. -/
theorem model_eq_append_registryText (s : Settings) :
    ∃ before behind, (p.artifacts s).model = before ++ p.registryText ++ behind := by
  rw [artifacts, modelLines]
  exact exists_textOfLines_append _ p.registryLines_ne_nil _

/-- **When the text falls into the lines of the registry**: no description breaks its line, and no
type name does. -/
theorem lines_registryText_iff :
    lines p.registryText = p.registryLines ++ [""] ↔
      ∀ t ∈ p.tables, IsLine t.description ∧ IsLine t.typeName := by
  have head : ∀ line ∈ ["", "/// Every table handle, keyed by handle name."], IsLine line := by
    decide
  have list : ∀ line ∈ registryOpening :: (p.tables.map TablePlan.registryEntry ++ ["];"]),
      IsLine line := by
    have closing : IsLine "];" := by decide
    rw [List.forall_mem_cons, List.forall_mem_append, List.forall_mem_map,
      List.forall_mem_singleton]
    exact ⟨isLine_registryOpening, fun t _ => t.isLine_registryEntry, closing⟩
  rw [registryText, lines_textOfLines_iff p.registryLines_ne_nil, registryLines_eq,
    List.forall_mem_append, List.forall_mem_append, and_iff_left list, and_iff_left head,
    List.forall_mem_flatMap]
  simp only [TablePlan.isLine_constantLines_iff]

/-- Where no name breaks a line, the text declares one constant for every table. -/
theorem constantsIn_registryText
    (single : ∀ t ∈ p.tables, IsLine t.description ∧ IsLine t.typeName) :
    constantsIn p.registryText = p.tables.map TablePlan.constant := by
  have last : [""].filterMap constant? = [] := by decide
  rw [constantsIn, p.lines_registryText_iff.mpr single, List.filterMap_append,
    p.constants_registryLines, last, List.append_nil]

end Plan

/-! ## The registry of a document -/

namespace PlacedTable

variable (x : PlacedTable)

def constantName : String := Naming.constant x.table.handleName

def accessorName : String := x.table.className ++ "Table"

/-- The constant that a table asks for. -/
def constant : DeclaredConstant := ⟨x.constantName, x.accessorName ++ " = " ++ x.accessorName⟩

/-- The line that declares it. -/
def constantLine : String :=
  "pub const " ++ x.constantName ++ ": " ++ x.accessorName ++ " = " ++ x.accessorName ++ ";"

/-- The line that describes it. -/
def description : String := descriptionLine x.schema x.table.name x.database

/-- The line that lists it. -/
def registryEntry : String := "    (" ++ quote x.table.handleName ++ ", &" ++ x.constantName ++ "),"

end PlacedTable

/-- What a registry holds for the tables of a document. -/
structure Plan.Registers (p : Plan) (placed : List PlacedTable) : Prop where
  /-- Between comments, one constant for every table in order, and then the list of all tables. -/
  code : p.registryLines.filter (!isComment ·) =
    placed.map PlacedTable.constantLine ++
      "" :: registryOpening :: (placed.map PlacedTable.registryEntry ++ ["];"])
  /-- One entry for every table in order: the handle as the key, then the table's constant. -/
  entries : (linesBehind registryOpening p.registryLines).filterMap listedTable? =
    placed.map fun x => (x.table.handleName, x.constantName)
  keys_nodup : (placed.map fun x => x.table.handleName).Nodup
  /-- The accessor of every table is declared by the model of the table. -/
  accessors : List.Forall₂ (fun t x => "pub struct " ++ x.accessorName ++ ";" ∈ t.modelLines)
    p.tables placed
  /-- The constants, the list and the accessors have different names. -/
  values_nodup : (placed.map PlacedTable.constantName ++
    Naming.registry :: placed.map PlacedTable.accessorName).Nodup

namespace TablePlan.Mirrors

variable {t : TablePlan} {x : PlacedTable} (h : t.Mirrors x)

include h

theorem constantName_eq : t.constantName = x.constantName := by
  rw [TablePlan.constantName, PlacedTable.constantName, h.handleName]

theorem accessorName_eq : t.accessorName = x.accessorName := by
  rw [TablePlan.accessorName, PlacedTable.accessorName, h.typeName]

theorem constant_eq : t.constant = x.constant := by
  rw [TablePlan.constant, PlacedTable.constant, h.constantName_eq, h.accessorName_eq]

theorem constantLine_eq : t.constantLine = x.constantLine := by
  unfold TablePlan.constantLine PlacedTable.constantLine
  rw [h.constantName_eq, h.accessorName_eq]

theorem registryEntry_eq : t.registryEntry = x.registryEntry := by
  rw [TablePlan.registryEntry, PlacedTable.registryEntry, h.handleName, h.constantName_eq]

theorem description_eq : t.description = x.description := by
  rw [TablePlan.description, PlacedTable.description, h.schemaName, h.storageName, h.databaseName]

end TablePlan.Mirrors

theorem TablePlan.accessor_mem_modelLines (t : TablePlan) :
    "pub struct " ++ t.accessorName ++ ";" ∈ t.modelLines := by
  simp [modelLines, accessorLines]

theorem Document.registers_of_resolve {d : Document} {p : Plan} (resolved : d.resolve = .ok p) :
    p.Registers d.placed := by
  have mirrors := Document.mirrors_of_resolve resolved
  obtain ⟨valid, -⟩ := Document.resolve_eq_ok.mp resolved
  have consistent := Document.validate_eq_ok.mp valid
  have constantNames := map_eq_map_of_forall₂ TablePlan.constantName PlacedTable.constantName
    (fun _ _ => TablePlan.Mirrors.constantName_eq) mirrors
  have accessorNames := map_eq_map_of_forall₂ TablePlan.accessorName PlacedTable.accessorName
    (fun _ _ => TablePlan.Mirrors.accessorName_eq) mirrors
  have constantLines := map_eq_map_of_forall₂ TablePlan.constantLine PlacedTable.constantLine
    (fun _ _ => TablePlan.Mirrors.constantLine_eq) mirrors
  have registryEntries := map_eq_map_of_forall₂ TablePlan.registryEntry PlacedTable.registryEntry
    (fun _ _ => TablePlan.Mirrors.registryEntry_eq) mirrors
  refine ⟨?_, ?_, ?_, mirrors.imp ?_, ?_⟩
  · rw [p.code_registryLines, constantLines, registryEntries]
  · have entry (t : TablePlan) (x : PlacedTable) (h : t.Mirrors x) :
        (t.handleName, t.constantName) = (x.table.handleName, x.constantName) := by
      rw [h.handleName, h.constantName_eq]
    rw [p.entries_registryLines]
    exact map_eq_map_of_forall₂ (fun t => (t.handleName, t.constantName))
      (fun x => (x.table.handleName, x.constantName)) entry mirrors
  · apply List.Nodup.of_map Naming.constant
    rw [List.map_map]
    exact consistent.constants_nodup
  · intro t x h
    rw [← h.accessorName_eq]
    exact t.accessor_mem_modelLines
  · rw [← constantNames, ← accessorNames]
    exact Document.valueNames_nodup resolved

/-- **A registry declares its tables.** The code of a registry is one line for every table, which
declares a constant that is bound to the accessor of the table, and a list of the constants under
the handles of the tables; no two of these names are the same. The text of the registry is a part of
the model. It falls into the lines of the registry exactly if no description and no type name breaks
a line; and if the type names are words besides, the text declares one constant for every table. -/
theorem Document.registry_declares_iff {d : Document} {p : Plan} (resolved : d.resolve = .ok p) :
    p.Registers d.placed ∧
      (∀ s, ∃ before behind, (p.artifacts s).model = before ++ p.registryText ++ behind) ∧
      (lines p.registryText = p.registryLines ++ [""] ↔
        ∀ x ∈ d.placed, IsLine x.description ∧ IsLine x.table.className) ∧
      ((∀ x ∈ d.placed, IsLine x.description ∧ IsWord x.table.className) →
        constantsIn p.registryText = d.placed.map PlacedTable.constant) := by
  have mirrors := Document.mirrors_of_resolve resolved
  have single (t : TablePlan) (x : PlacedTable) (h : t.Mirrors x) :
      IsLine t.description ∧ IsLine t.typeName ↔
        IsLine x.description ∧ IsLine x.table.className := by
    rw [h.typeName, h.description_eq]
  have unbroken := forall_mem_iff_of_forall₂ single mirrors
  refine ⟨Document.registers_of_resolve resolved, p.model_eq_append_registryText, ?_, ?_⟩
  · rw [p.lines_registryText_iff]
    exact unbroken
  · intro named
    have lines : ∀ x ∈ d.placed, IsLine x.description ∧ IsLine x.table.className :=
      fun x hx => ⟨(named x hx).1, (named x hx).2.isLine⟩
    rw [p.constantsIn_registryText (unbroken.mpr lines)]
    exact map_eq_map_of_forall₂ TablePlan.constant PlacedTable.constant
      (fun _ _ => TablePlan.Mirrors.constant_eq) mirrors

theorem worldDocument_registry :
    ∃ p, worldDocument.resolve = .ok p ∧
      constantsIn p.registryText =
        [⟨"CUSTOMERS", "CustomerTable = CustomerTable"⟩,
          ⟨"COUNTRIES", "CountryTable = CountryTable"⟩, ⟨"REGIONS", "RegionTable = RegionTable"⟩] ∧
      lines p.registryText = p.registryLines ++ [""] := by
  obtain ⟨p, resolved, -⟩ := worldDocument_resolves
  obtain ⟨-, -, unbroken, declared⟩ := Document.registry_declares_iff resolved
  have constants : worldDocument.placed.map PlacedTable.constant =
      [⟨"CUSTOMERS", "CustomerTable = CustomerTable"⟩,
        ⟨"COUNTRIES", "CountryTable = CountryTable"⟩,
        ⟨"REGIONS", "RegionTable = RegionTable"⟩] := by
    decide +kernel
  have names : ∀ x ∈ worldDocument.placed,
      (IsLine x.schema ∧ IsLine x.table.name ∧ IsLine x.database) ∧ IsWord x.table.className := by
    decide +kernel
  have words : ∀ x ∈ worldDocument.placed, IsLine x.description ∧ IsWord x.table.className :=
    fun x hx => ⟨isLine_descriptionLine.mpr (names x hx).1, (names x hx).2⟩
  refine ⟨p, resolved, (declared words).trans constants, unbroken.mpr ?_⟩
  exact fun x hx => ⟨(words x hx).1, (words x hx).2.isLine⟩

/-- The lines that the text of the registry falls into if the region stands in a database whose name
ends the description and goes on with a constant of its own. -/
def copiedLines : List String :=
  ["/// Handle for `SH.REGIONS` in database `ORCL",
    "pub const COPY: RegionTable = RegionTable;",
    "//`.",
    "pub const REGIONS: RegionTable = RegionTable;",
    "",
    "/// Every table handle, keyed by handle name.",
    "pub static TABLES: &[(&str, &(dyn TableAccessor + Sync))] = &[",
    "    (\"Regions\", &REGIONS),",
    "];"]

/-- One table, and two constants in the text of its registry: the name of the database ends the
comment that describes the one and declares the other. -/
theorem regionDocument_copied :
    ∃ p, (regionDocument "ORCL\npub const COPY: RegionTable = RegionTable;\n//").resolve = .ok p ∧
      p.tables.map TablePlan.constant = [⟨"REGIONS", "RegionTable = RegionTable"⟩] ∧
      lines p.registryText = copiedLines ++ [""] ∧
      constantsIn p.registryText =
        [⟨"COPY", "RegionTable = RegionTable"⟩, ⟨"REGIONS", "RegionTable = RegionTable"⟩] := by
  have evaluated :
      (regionDocument "ORCL\npub const COPY: RegionTable = RegionTable;\n//").resolve.toOption.map
        (fun p => (p.tables.map TablePlan.constant, p.registryText)) =
      some ([⟨"REGIONS", "RegionTable = RegionTable"⟩], textOfLines copiedLines) := by
    decide +kernel
  simp only [Option.map_eq_some_iff, toOption_eq_some, Prod.mk.injEq] at evaluated
  obtain ⟨p, resolved, constants, text⟩ := evaluated
  have single : ∀ line ∈ copiedLines, IsLine line := by decide +kernel
  have fallen : lines p.registryText = copiedLines ++ [""] := text ▸ lines_textOfLines single
  refine ⟨p, resolved, constants, fallen, ?_⟩
  rw [constantsIn, fallen]
  decide +kernel

end Tablecast
