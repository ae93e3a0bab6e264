import Tablecast.Proofs.Artifact.Agreement
import Tablecast.Proofs.Artifact.Registry

/-!
# Names that are apart, and names that are there

Validation compares the names of fields as messages spell them. The model escapes some of these
names, and escaping keeps them apart, so both artifacts name every field once. But validation looks
for required names before they are spelled for the artifacts, and nothing is left of a name that has
neither letters nor numbers.

* `TablePlan.namesApart_of_mirrors`: the names of fields and columns of a table,
* `FilledFrom`: how much of a source name is left,
* `Document.fieldNames_apart`, `Document.names_filled_iff`: the names of a whole document.
-/

namespace Tablecast

open Artifact Text

/-! ## Names of fields -/

/-- The names of the fields that the lines of the message declare. -/
def TablePlan.declaredNames (t : TablePlan) : List String :=
  (t.withoutComments.messageLines.filterMap wireField?).map WireField.name

theorem TablePlan.declaredNames_eq {t : TablePlan} (wellFormed : t.WellFormed) :
    t.declaredNames = t.fieldNames.map Naming.field := by
  rw [declaredNames, wireFields_messageLines wellFormed.tags, map_name_wireFields wellFormed.tags]

/-- The record, the message and the accessor of a table name its fields and its columns, each of
them once. -/
structure TablePlan.NamesApart (t : TablePlan) (x : PlacedTable) : Prop where
  idents : t.declaredIdents = x.table.fieldNames.map fieldIdent
  idents_nodup : t.declaredIdents.Nodup
  names : t.declaredNames = x.table.fieldNames.map Naming.field
  names_nodup : t.declaredNames.Nodup
  pairs : listedPairs t.accessorLines =
    x.table.columns.map fun c => (Naming.field c.fieldName, c.name)
  listedFields_nodup : ((listedPairs t.accessorLines).map Prod.fst).Nodup
  listedColumns_nodup : ((listedPairs t.accessorLines).map Prod.snd).Nodup

theorem TablePlan.WellFormed.columnFields_nodup {t : TablePlan} (h : t.WellFormed) :
    (t.columns.map fun c => Naming.field c.fieldName).Nodup := by
  have all := h.fields_nodup
  rw [fieldNames, List.map_append, List.map_map, Function.comp_def] at all
  exact (List.nodup_append.mp all).1

theorem TablePlan.Mirrors.listedPairs_eq {t : TablePlan} {x : PlacedTable} (h : t.Mirrors x) :
    listedPairs t.accessorLines =
      x.table.columns.map fun c => (Naming.field c.fieldName, c.name) := by
  rw [t.listedPairs_accessorLines]
  apply map_eq_map_of_forall₂ _ _ _ h.columns
  intro q c mirrors
  rw [mirrors.fieldName, mirrors.storageName]

theorem TablePlan.namesApart_of_mirrors {t : TablePlan} {x : PlacedTable} (h : t.Mirrors x)
    (wellFormed : t.WellFormed) : t.NamesApart x where
  idents := by rw [t.declaredIdents_eq, t.idents_eq, h.fieldNames]
  idents_nodup := by
    rw [t.declaredIdents_eq]
    exact TablePlan.idents_nodup wellFormed.fields_nodup
  names := by rw [TablePlan.declaredNames_eq wellFormed, h.fieldNames]
  names_nodup := by
    rw [TablePlan.declaredNames_eq wellFormed]
    exact wellFormed.fields_nodup
  pairs := h.listedPairs_eq
  listedFields_nodup := by
    rw [t.listedPairs_accessorLines, List.map_map, Function.comp_def]
    exact wellFormed.columnFields_nodup
  listedColumns_nodup := by
    rw [t.listedPairs_accessorLines, List.map_map, Function.comp_def]
    exact wellFormed.columns_nodup

/-- **Fields are named once.** In every table of an accepted document, the identifiers that the
record declares, the names that the message declares, and both sides of the list of the accessor
come from the fields and columns of the table in order, and no two of a kind are the same. -/
theorem Document.fieldNames_apart {d : Document} {p : Plan} (resolved : d.resolve = .ok p) :
    List.Forall₂ TablePlan.NamesApart p.tables d.placed := by
  have tables := (List.forall₂_and_left _ _).mpr
    ⟨(Document.wellFormed_of_resolve resolved).tables, Document.mirrors_of_resolve resolved⟩
  apply tables.imp
  rintro t x ⟨wellFormed, mirrors⟩
  exact TablePlan.namesApart_of_mirrors mirrors wellFormed

/-- Fields that are named by reserved words and by what escaping makes of such words. -/
def reservedDocument : Document where
  databases := [
    ⟨"ORCL", [⟨"SH", [
      ⟨"WORDS", "Word", "Words", none,
        [⟨"KIND", "Type", "VARCHAR2(20)", false, none, none⟩,
          ⟨"RAW", "r#type", "VARCHAR2(20)", false, none, none⟩,
          ⟨"OWNER", "Self", "NUMBER(4)", true, none, none⟩],
        [⟨"OWNER", "Word", "self owner"⟩]⟩]⟩]⟩]

theorem reservedDocument_resolves : ∃ p, reservedDocument.resolve = .ok p := by
  have accepted : reservedDocument.resolve.toOption.isSome := by decide +kernel
  obtain ⟨p, resolved⟩ := Option.isSome_iff_exists.mp accepted
  exact ⟨p, toOption_eq_some.mp resolved⟩

theorem reservedDocument_names :
    ∃ p, reservedDocument.resolve = .ok p ∧ p.tables.length = 1 ∧
      ∀ t ∈ p.tables, t.declaredIdents = ["r#type", "r_type", "self_", "self_owner"] ∧
        t.declaredNames = ["type", "r_type", "self", "self_owner"] ∧ t.declaredIdents.Nodup := by
  obtain ⟨p, resolved⟩ := reservedDocument_resolves
  have names : ∀ x ∈ reservedDocument.placed,
      x.table.fieldNames.map fieldIdent = ["r#type", "r_type", "self_", "self_owner"] ∧
        x.table.fieldNames.map Naming.field = ["type", "r_type", "self", "self_owner"] := by
    decide +kernel
  have tables := Document.fieldNames_apart resolved
  refine ⟨p, resolved, tables.length_eq, ?_⟩
  intro t ht
  obtain ⟨x, hx, apart⟩ := exists_of_mem_forall₂ tables ht
  obtain ⟨idents, fields⟩ := names x hx
  exact ⟨apart.idents.trans idents, apart.names.trans fields, apart.idents_nodup⟩

/-! ## What is left of a name -/

/-- The text has a letter or a number in it. -/
def HoldsLetter (s : String) : Prop := ∃ c ∈ s.toList, isAlphanumeric c = true

instance (s : String) : Decidable (HoldsLetter s) := List.decidableBEx _ _

theorem not_holdsLetter {s : String} :
    ¬HoldsLetter s ↔ ∀ c ∈ s.toList, isAlphanumeric c = false := by
  simp only [HoldsLetter, not_exists, not_and, Bool.not_eq_true]

/-- The name has nothing left of its source exactly if the source has neither letters nor numbers,
and only then it would be refused as a required name. -/
structure FilledFrom (name source : String) : Prop where
  eq_empty_iff : name = "" ↔ ¬HoldsLetter source
  isVacant_iff : isVacant name = true ↔ name = ""

theorem FilledFrom.isVacant_eq_false_iff {name source : String} (h : FilledFrom name source) :
    isVacant name = false ↔ HoldsLetter source := by
  rw [← Bool.not_eq_true, h.isVacant_iff, h.eq_empty_iff, not_not]

theorem filledFrom_field (fieldName : String) : FilledFrom (Naming.field fieldName) fieldName where
  eq_empty_iff := by
    rw [not_holdsLetter]
    exact snakeCase_eq_empty_iff fieldName
  isVacant_iff := isVacant_snakeCase_iff fieldName

theorem filledFrom_constant (handleName : String) :
    FilledFrom (Naming.constant handleName) handleName where
  eq_empty_iff := by
    rw [not_holdsLetter]
    exact upperSnakeCase_eq_empty_iff handleName
  isVacant_iff := isVacant_upperSnakeCase_iff handleName

/-- Only words are escaped, so an escaped name is there, and so was the name before. -/
theorem Escapes.filledFrom {name ident source : String} (h : Escapes name ident)
    (filled : FilledFrom name source) : FilledFrom ident source := by
  have word (named : name ≠ "") (escaped : ident ≠ "") (solid : isVacant ident = false) :
      FilledFrom ident source := by
    refine ⟨?_, ?_⟩
    · rw [← filled.eq_empty_iff]
      exact iff_of_false escaped named
    · exact iff_of_false (Bool.eq_false_iff.mp solid) escaped
  have raws : ∀ k ∈ keywords, k ≠ "" ∧ "r#" ++ k ≠ "" ∧ isVacant ("r#" ++ k) = false := by
    decide +kernel
  have places : ∀ k ∈ pathKeywords, k ≠ "" ∧ k ++ "_" ≠ "" ∧ isVacant (k ++ "_") = false := by
    decide +kernel
  cases h with
  | plain => exact filled
  | raw reserved =>
    obtain ⟨named, escaped, solid⟩ := raws name reserved
    exact word named escaped solid
  | underscore reserved =>
    obtain ⟨named, escaped, solid⟩ := places name reserved
    exact word named escaped solid

theorem filledFrom_fieldIdent (fieldName : String) : FilledFrom (fieldIdent fieldName) fieldName :=
  (escapes_fieldIdent fieldName).filledFrom (filledFrom_field fieldName)

/-- The names that are made for a table: its constant, and the fields of its record and of its
message. -/
def TablePlan.renderedNames (t : TablePlan) : List String :=
  (t.constantLines.filterMap constant?).map DeclaredConstant.name ++
    (t.declaredIdents ++ t.declaredNames)

/-- The names that they are made from. -/
def Table.sourceNames (t : Table) : List String := t.handleName :: (t.fieldNames ++ t.fieldNames)

theorem TablePlan.renderedNames_eq {t : TablePlan} (wellFormed : t.WellFormed) :
    t.renderedNames =
      t.constantName :: (t.fieldNames.map fieldIdent ++ t.fieldNames.map Naming.field) := by
  rw [renderedNames, t.constants_constantLines, t.declaredIdents_eq, t.idents_eq,
    declaredNames_eq wellFormed]
  rfl

theorem TablePlan.filled_renderedNames {t : TablePlan} {x : PlacedTable} (h : t.Mirrors x)
    (wellFormed : t.WellFormed) :
    List.Forall₂ FilledFrom t.renderedNames x.table.sourceNames := by
  rw [renderedNames_eq wellFormed, Table.sourceNames, h.fieldNames, constantName, h.handleName]
  refine .cons (filledFrom_constant _) (List.rel_append ?_ ?_)
  · rw [List.forall₂_map_left_iff, List.forall₂_same]
    exact fun s _ => filledFrom_fieldIdent s
  · rw [List.forall₂_map_left_iff, List.forall₂_same]
    exact fun s _ => filledFrom_field s

/-- **Which names are there.** Every identifier and every message field of an accepted document, and
every constant of its registry, is empty exactly if the field name or the handle that it comes from
has neither letters nor numbers; any other one would pass the check of required names. So all of
them are there if and only if all field names and handles have letters or numbers. -/
theorem Document.names_filled_iff {d : Document} {p : Plan} (resolved : d.resolve = .ok p) :
    List.Forall₂ (fun t x => List.Forall₂ FilledFrom t.renderedNames x.table.sourceNames)
        p.tables d.placed ∧
      ((∀ t ∈ p.tables, ∀ name ∈ t.renderedNames, isVacant name = false) ↔
        ∀ x ∈ d.placed, ∀ source ∈ x.table.sourceNames, HoldsLetter source) := by
  have tables := (List.forall₂_and_left _ _).mpr
    ⟨(Document.wellFormed_of_resolve resolved).tables, Document.mirrors_of_resolve resolved⟩
  have filled : List.Forall₂
      (fun t x => List.Forall₂ FilledFrom t.renderedNames x.table.sourceNames)
      p.tables d.placed := by
    apply tables.imp
    rintro t x ⟨wellFormed, mirrors⟩
    exact TablePlan.filled_renderedNames mirrors wellFormed
  refine ⟨filled, forall_mem_iff_of_forall₂ ?_ filled⟩
  intro t x names
  exact forall_mem_iff_of_forall₂ (fun _ _ h => h.isVacant_eq_false_iff) names

theorem reservedDocument_filled :
    ∃ p, reservedDocument.resolve = .ok p ∧ p.tables.length = 1 ∧
      ∀ t ∈ p.tables, ∀ name ∈ t.renderedNames, isVacant name = false := by
  obtain ⟨p, resolved⟩ := reservedDocument_resolves
  have letters : ∀ x ∈ reservedDocument.placed, ∀ source ∈ x.table.sourceNames,
      HoldsLetter source := by
    decide +kernel
  obtain ⟨tables, filled⟩ := Document.names_filled_iff resolved
  exact ⟨p, resolved, tables.length_eq, filled.mpr letters⟩

/-- A table whose field and whose handle are named by separators only. -/
def dashDocument : Document where
  databases := [
    ⟨"ORCL", [⟨"SH", [
      ⟨"REGIONS", "Region", "!", none,
        [⟨"NAME", "-", "VARCHAR2(20)", false, none, none⟩], []⟩]⟩]⟩]

/-- The document is accepted, and nothing is left of these names. -/
theorem dashDocument_empty :
    ∃ p, dashDocument.resolve = .ok p ∧ p.tables.map TablePlan.renderedNames = [["", "", ""]] := by
  have evaluated : dashDocument.resolve.toOption.map (fun p => p.tables.map fun t =>
      t.constantName :: (t.fieldNames.map fieldIdent ++ t.fieldNames.map Naming.field)) =
      some [["", "", ""]] := by
    decide +kernel
  simp only [Option.map_eq_some_iff, toOption_eq_some] at evaluated
  obtain ⟨p, resolved, names⟩ := evaluated
  refine ⟨p, resolved, ?_⟩
  rw [← names]
  apply List.map_congr_left
  intro t ht
  exact TablePlan.renderedNames_eq ((Document.wellFormed_of_resolve resolved).tables t ht)

end Tablecast
