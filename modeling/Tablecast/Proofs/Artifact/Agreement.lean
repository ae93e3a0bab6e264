import Tablecast.Proofs.Artifact.Code
import Tablecast.Proofs.Artifact.Moves
import Tablecast.Proofs.Codec.Column

/-!
# Records and messages of a table

The record of a table, its message and the conversions between them are rendered one by one. Read
line by line they have the same fields in the same order.

* `TablePlan.recordFields_recordLines`, `TablePlan.wireFields_messageLines`: the declared fields,
* `TablePlan.commented_messageLines`: comments leave the fields of a message as they are,
* `Escapes.name_eq`: escaping keeps the names of fields apart,
* `TablePlan.missing_decoderLines`: the fields that a message cannot do without,
* `TablePlan.Agrees`, `Document.artifacts_agree`: all parts together.
-/

namespace Tablecast

open Artifact Text

/-! ## Fields of a record -/

/-- A field of a record. -/
structure RecordField where
  ident : String
  type : String
  deriving DecidableEq

/-- The field that a line of a record declares. -/
def recordField? (line : String) : Option RecordField :=
  (nameBehind? (margin ++ "pub ") line).bind fun ident =>
    (between? (margin ++ "pub " ++ ident ++ ": ") "," line).map fun type => ⟨ident, type⟩

theorem recordField?_of_startsApart {start : String} (apart : StartsApart (margin ++ "pub ") start)
    (rest : String) : recordField? (start ++ rest) = none := by
  rw [recordField?, nameBehind?_of_startsApart apart]
  rfl

theorem recordField?_field {ident : String} (h : IsIdent ident) (type : String) :
    recordField? (margin ++ "pub " ++ ident ++ ": " ++ type ++ ",") = some ⟨ident, type⟩ := by
  have name : nameBehind? (margin ++ "pub ") (margin ++ "pub " ++ ident ++ ": " ++ type ++ ",") =
      some ident := by
    rw [String.append_assoc]
    exact nameBehind?_declaration h _
  rw [recordField?, name, Option.bind_some, between?_eq_some.mpr rfl]
  rfl

namespace TablePlan

/-- The fields of the record by the plan. -/
def recordFields (t : TablePlan) : List RecordField :=
  t.columns.map (fun c => ⟨c.ident, c.type.modelType⟩) ++
    t.relationships.map fun r => ⟨r.ident, r.modelType⟩

/-- **The lines of a record** declare its fields, whatever the comments are. -/
theorem recordFields_recordLines (t : TablePlan) :
    t.recordLines.filterMap recordField? = t.recordFields := by
  have silent : StartsApart (margin ++ "pub ") (margin ++ "///") := by decide
  have silent' : StartsApart (margin ++ "pub ") "///" := by decide
  have silent'' : StartsApart (margin ++ "pub ") "pub struct " := by decide
  have comment := filterMap_commentLines "///" t.comment (by decide) (by decide)
    (recordField?_of_startsApart silent')
  have derived : recordField? "#[derive(Debug, Clone, Default, PartialEq)]" = none := by decide
  have brace : recordField? "\x7d" = none := by decide
  have columns : t.columns.flatMap (fun c => c.fieldLines.filterMap recordField?) =
      t.columns.map fun c => ⟨c.ident, c.type.modelType⟩ := by
    rw [List.map_eq_flatMap]
    refine List.flatMap_congr fun c _ => ?_
    have comment := filterMap_commentLines (margin ++ "///") c.comment (by decide) (by decide)
      (recordField?_of_startsApart silent)
    rw [ColumnPlan.fieldLines, List.filterMap_append, comment, List.filterMap_cons,
      recordField?_field c.isIdent_ident]
    rfl
  have relationships : (t.relationships.map RelationshipPlan.fieldLine).filterMap recordField? =
      t.relationships.map fun r => ⟨r.ident, r.modelType⟩ := by
    rw [List.filterMap_map, ← List.filterMap_eq_map]
    refine List.filterMap_congr fun r _ => ?_
    rw [Function.comp_apply, RelationshipPlan.fieldLine, recordField?_field r.isIdent_ident]
    rfl
  have struct : recordField? ("pub struct " ++ t.typeName ++ " \x7b") = none := by
    rw [String.append_assoc]
    exact recordField?_of_startsApart silent'' _
  simp only [recordLines, List.filterMap_append, List.filterMap_cons, List.filterMap_nil, comment,
    derived, struct, brace, List.filterMap_flatMap, columns, relationships, List.nil_append,
    List.append_nil, recordFields]

end TablePlan

/-! ## Fields of a message -/

/-- The text before its last space, and the word behind it. -/
def cutLast? (s : String) : Option (String × String) :=
  match s.toList.reverse.dropWhile (· != ' ') with
  | [] => none
  | _ :: front =>
    some (.ofList front.reverse, .ofList (s.toList.reverse.takeWhile (· != ' ')).reverse)

theorem cutLast?_word {word : String} (single : ' ' ∉ word.toList) (front : String) :
    cutLast? (front ++ " " ++ word) = some (front, word) := by
  have inside : ∀ c ∈ word.toList.reverse, (c != ' ') = true :=
    bne_of_notMem (List.mem_reverse.not.mpr single)
  have chars : (front ++ " " ++ word).toList.reverse =
      word.toList.reverse ++ ' ' :: front.toList.reverse := by
    simp
  rw [cutLast?, chars, dropWhile_append_mark inside (by decide),
    takeWhile_append_mark inside (by decide)]
  simp

/-- The field that a line of a message declares, from its end: types may hold anything. -/
def wireField? (line : String) : Option WireField := do
  let (declared, number) ← cutLast? (← between? wireMargin ";" line)
  let (field, sign) ← cutLast? declared
  let (type, name) ← cutLast? field
  if sign = "=" then (Declaration.digits? number.toList).map (⟨type, name, ·⟩) else none

theorem wireField?_declaration {f : WireField} (single : ' ' ∉ f.name.toList) :
    wireField? (wireMargin ++ f.declaration) = some f := by
  have digits : ' ' ∉ (toString f.number).toList := by
    rw [Declaration.toList_toString_nat]
    intro space
    exact absurd (Declaration.isDigit_of_mem_toDigits _ space) (by decide)
  have sign : ' ' ∉ "=".toList := by decide
  have line : wireMargin ++ f.declaration =
      wireMargin ++ (f.type ++ " " ++ f.name ++ " " ++ "=" ++ " " ++ toString f.number) ++ ";" := by
    have equals : " = " = " " ++ "=" ++ " " := by decide
    rw [WireField.declaration, equals]
    simp only [String.append_assoc]
  rw [wireField?, between?_eq_some.mpr line]
  simp only [Option.bind_eq_bind, Option.bind_some, cutLast?_word digits, cutLast?_word sign,
    cutLast?_word single, Declaration.toList_toString_nat, Declaration.digits?_toDigits]
  rfl

theorem wireField?_of_startsApart {start : String} (apart : StartsApart wireMargin start)
    (rest : String) : wireField? (start ++ rest) = none := by
  rw [wireField?, between?_of_startsApart apart]
  rfl

theorem space_notMem_field (fieldName : String) : ' ' ∉ (Naming.field fieldName).toList := by
  intro space
  exact absurd (isIdent_field fieldName _ space) (by decide)

/-- **The lines of a message**, its comments apart, declare its fields. -/
theorem TablePlan.wireFields_messageLines {t : TablePlan}
    (numbered : t.tags = List.range' 1 (t.columns.length + t.relationships.length)) :
    t.withoutComments.messageLines.filterMap wireField? = t.wireFields := by
  have columns : (t.columns.map ColumnPlan.withoutComment).flatMap
      (fun c => c.messageLines.filterMap wireField?) = t.columns.map ColumnPlan.wireField := by
    rw [List.flatMap_map, List.map_eq_flatMap]
    refine List.flatMap_congr fun c _ => ?_
    have lines : c.withoutComment.messageLines = [wireMargin ++ c.wireField.declaration] :=
      c.withoutComment.messageLines_eq
    rw [lines, List.filterMap_cons,
      wireField?_declaration (f := c.wireField) (space_notMem_field _)]
    rfl
  have relationships : (t.relationships.map RelationshipPlan.messageLine).filterMap wireField? =
      t.relationships.map RelationshipPlan.wireField := by
    rw [List.filterMap_map, ← List.filterMap_eq_map]
    refine List.filterMap_congr fun r _ => ?_
    rw [Function.comp_apply, r.messageLine_eq,
      wireField?_declaration (f := r.wireField) (space_notMem_field _)]
    rfl
  have opening : wireField? ("message " ++ t.messageName ++ " \x7b") = none := by
    rw [String.append_assoc]
    exact wireField?_of_startsApart (by decide) _
  have brace : wireField? "\x7d" = none := by decide
  have lines : t.withoutComments.messageLines = ["message " ++ t.messageName ++ " \x7b"] ++
      (t.columns.map ColumnPlan.withoutComment).flatMap ColumnPlan.messageLines ++
      t.relationships.map RelationshipPlan.messageLine ++ ["\x7d"] := rfl
  simp only [lines, wireFields_eq numbered, List.filterMap_append, List.filterMap_cons,
    List.filterMap_nil, opening, brace, List.filterMap_flatMap, columns, relationships,
    List.nil_append, List.append_nil]

/-- The second lines are the first ones with lines of comments between them. -/
inductive Commented : List String → List String → Prop
  | nil : Commented [] []
  | line {line : String} {code lines : List String} (h : Commented code lines) :
      Commented (line :: code) (line :: lines)
  | comment {comment : String} {code lines : List String} (mark : isComment comment = true)
      (h : Commented code lines) : Commented code (comment :: lines)

theorem Commented.refl (lines : List String) : Commented lines lines := by
  induction lines with
  | nil => exact .nil
  | cons line lines ih => exact .line ih

theorem Commented.append {code code' lines lines' : List String} (h : Commented code lines)
    (h' : Commented code' lines') : Commented (code ++ code') (lines ++ lines') := by
  induction h with
  | nil => exact h'
  | line _ ih => exact .line ih
  | comment mark _ ih => exact .comment mark ih

theorem commented_commentLines {mark : String} (solid : trimEnd mark.toList = mark.toList)
    (single : IsLine mark) (marks : isComment mark = true) (comment : Option String) :
    Commented [] (commentLines comment mark) := by
  have all := isComment_of_mem_commentLines solid single marks comment
  generalize commentLines comment mark = lines at all
  induction lines with
  | nil => exact .nil
  | cons line lines ih =>
    obtain ⟨first, rest⟩ := List.forall_mem_cons.mp all
    exact .comment first (ih rest)

theorem TablePlan.commented_messageLines (t : TablePlan) :
    Commented t.withoutComments.messageLines t.messageLines := by
  have columns : Commented (t.withoutComments.columns.flatMap ColumnPlan.messageLines)
      (t.columns.flatMap ColumnPlan.messageLines) := by
    rw [withoutComments, List.flatMap_map]
    induction t.columns with
    | nil => exact .nil
    | cons c columns ih =>
      have comment : Commented [] (commentLines c.comment (wireMargin ++ "//")) :=
        commented_commentLines (by decide) (by decide) (by decide) c.comment
      exact (comment.append (.refl _)).append ih
  have comment : Commented [] (commentLines t.comment "//") :=
    commented_commentLines (by decide) (by decide) (by decide) t.comment
  exact (((comment.append (.refl _)).append columns).append (.refl _)).append (.refl _)

/-! ## Names and types -/

/-- The identifier is the name itself, or the name escaped where the model's language reserves
it. -/
inductive Escapes (name : String) : String → Prop
  | plain (free : name ∉ keywords ++ pathKeywords) : Escapes name name
  | raw (reserved : name ∈ keywords) : Escapes name ("r#" ++ name)
  | underscore (reserved : name ∈ pathKeywords) : Escapes name (name ++ "_")

theorem escapes_fieldIdent (fieldName : String) :
    Escapes (Naming.field fieldName) (fieldIdent fieldName) := by
  unfold fieldIdent
  dsimp only
  split
  · next place => exact .underscore (List.contains_iff_mem.mp place)
  · next notPlace =>
    split
    · next word => exact .raw (List.contains_iff_mem.mp word)
    · next notWord =>
      refine .plain fun reserved => ?_
      rcases List.mem_append.mp reserved with word | place
      · exact notWord (List.contains_iff_mem.mpr word)
      · exact notPlace (List.contains_iff_mem.mpr place)

/-- A name that is not what escaping leads to. -/
def IsUnescaped (name : String) : Prop := ∀ other, name ≠ "r#" ++ other ∧ name ≠ other ++ "_"

theorem isUnescaped_field (fieldName : String) : IsUnescaped (Naming.field fieldName) := by
  intro other
  constructor
  · intro raw
    have hash : '#' ∈ (Naming.field fieldName).toList := by
      rw [raw, String.toList_append]
      exact List.mem_append_left _ (by decide)
    have known := mem_snakeCase hash
    revert known
    decide
  · intro underscore
    apply getLast?_snakeCase fieldName
    have last : "_".toList = ['_'] := by decide
    rw [show snakeCase fieldName = other ++ "_" from underscore, String.toList_append, last,
      List.getLast?_concat]

/-- **Escaping keeps names apart.** -/
theorem Escapes.name_eq {name name' ident ident' : String} (h : Escapes name ident)
    (h' : Escapes name' ident') (unescaped : IsUnescaped name) (unescaped' : IsUnescaped name')
    (same : ident = ident') : name = name' := by
  have apart : ∀ place ∈ pathKeywords, StartsApart "r#" place := by decide
  cases h with
  | plain =>
    cases h' with
    | plain => exact same
    | raw => exact absurd same (unescaped _).1
    | underscore => exact absurd same (unescaped _).2
  | raw =>
    cases h' with
    | plain => exact absurd same.symm (unescaped' _).1
    | raw => exact (String.append_right_inj _).mp same
    | underscore reserved => exact absurd same ((apart _ reserved).append_ne _ _)
  | underscore reserved =>
    cases h' with
    | plain => exact absurd same.symm (unescaped' _).2
    | raw => exact absurd same.symm ((apart _ reserved).append_ne _ _)
    | underscore => exact (String.append_left_inj _).mp same

theorem fieldIdent_inj {a b : String} (same : fieldIdent a = fieldIdent b) :
    Naming.field a = Naming.field b :=
  (escapes_fieldIdent a).name_eq (escapes_fieldIdent b) (isUnescaped_field a)
    (isUnescaped_field b) same

/-- The type of a field of a record that can be null. -/
def IsOption (type : String) : Prop := "Option<".toList <+: type.toList

/-- The type of a field of a message that shows whether the field is there: an optional scalar, a
composite value or the message of a table. -/
def Plan.HasPresence (p : Plan) (type : String) : Prop :=
  "optional ".toList <+: type.toList ∨ (∃ kind : CompositeKind, type = kind.messageName) ∨
    ∃ t ∈ p.tables, type = t.messageName

theorem FieldType.nullable_of_isOption {t : FieldType} (h : IsOption t.modelType) :
    t.nullable = true := by
  by_contra null
  have plain : ∀ semantic : Semantic, ¬ IsOption semantic.modelType := by
    unfold IsOption
    intro semantic
    cases semantic <;> decide
  rw [modelType, if_neg null] at h
  exact plain _ h

theorem Plan.hasPresence_declared (p : Plan) {w : WireType} (h : w.hasPresence = true) :
    p.HasPresence w.declared := by
  cases w with
  | scalar kind => cases h
  | optional kind =>
    left
    rw [WireType.declared, String.toList_append]
    exact List.prefix_append _ _
  | composite kind => exact .inr (.inl ⟨kind, rfl⟩)

/-! ## Missing fields -/

/-- The field that a line refuses to do without, quoted. -/
def missingField? (line : String) : Option String :=
  between? "return Err(support::missing_field(" "));" line

/-- A composite column that may not be null. -/
def ColumnPlan.isRequired (c : ColumnPlan) : Bool :=
  !c.type.nullable && match c.wire with
    | .composite _ => true
    | _ => false

theorem FieldType.conversion_eq_composite {t : FieldType} {kind : CompositeKind} :
    t.conversion = .composite kind ↔ t.wire = .composite kind := by
  obtain ⟨semantic, nullable⟩ := t
  cases semantic <;> cases nullable <;> simp [conversion, wire, Semantic.carrier]

theorem missing_of_startsApart (start : String)
    (solid : start.toList.head?.any (· != ' ') = true)
    (apart : StartsApart "return Err(support::missing_field(" start) (rest : String) :
    readLines missingField? [start ++ rest] = [] :=
  readLines_singleton solid (between?_of_startsApart apart)

theorem missing_brace : readLines missingField? ["\x7d"] = [] := by decide

theorem missing_guardedLines (ident assigned : String) :
    readLines missingField? (guarded ident assigned) = [] := by
  have opens := missing_of_startsApart "if let Some(v) = message." (by decide) (by decide)
    (ident ++ " \x7b")
  have assigns := missing_of_startsApart "value." (by decide) (by decide)
    (ident ++ (" = " ++ (assigned ++ ";")))
  rw [guarded, readLines_block]
  simp only [String.append_assoc, opens, assigns, missing_brace, List.append_nil]

theorem ColumnPlan.missing_decodeLines {c : ColumnPlan} (wire : c.wire = c.type.wire)
    (conversion : c.conversion = c.type.conversion) :
    readLines missingField? c.decodeLines =
      if c.isRequired then [quote (Naming.field c.fieldName)] else [] := by
  have assigns (assigned : String) :
      readLines missingField? ["value." ++ c.ident ++ " = " ++ assigned ++ ";"] = [] := by
    simp only [String.append_assoc]
    exact missing_of_startsApart "value." (by decide) (by decide) _
  unfold decodeLines
  cases null : c.type.nullable with
  | true =>
    have optional : c.isRequired = false := by simp [isRequired, null]
    rw [if_pos rfl, optional, missing_guardedLines]
    rfl
  | false =>
    rw [if_neg Bool.false_ne_true]
    split
    · next kind composite =>
      have sent : c.wire = .composite kind := by
        rw [wire, ← FieldType.conversion_eq_composite, ← conversion, composite]
      have required : c.isRequired = true := by simp [isRequired, null, sent]
      have opens : readLines missingField? ["let Some(v) = message." ++ c.ident ++ " else \x7b"] =
          [] := by
        rw [String.append_assoc]
        exact missing_of_startsApart "let Some(v) = message." (by decide) (by decide) _
      have refuses : readLines missingField? ["return Err(support::missing_field(" ++
          quote (Naming.field c.fieldName) ++ "));"] = [quote (Naming.field c.fieldName)] := by
        have found : missingField? ("return Err(support::missing_field(" ++
            (quote (Naming.field c.fieldName) ++ "));")) =
              some (quote (Naming.field c.fieldName)) := by
          rw [← String.append_assoc]
          exact between?_eq_some.mpr rfl
        rw [String.append_assoc]
        exact readLines_singleton (by decide) found
      have closes : readLines missingField? ["\x7d;"] = [] := by decide
      have lines (line : String) : ["\x7d;", line] = ["\x7d;"] ++ [line] := rfl
      rw [required, lines]
      simp only [readLines_append, readLines_indent, opens, refuses, closes, assigns]
      rfl
    · next single =>
      have direct : c.isRequired = false := by
        rw [isRequired, null]
        cases sent : c.wire with
        | composite kind =>
          rw [wire, ← FieldType.conversion_eq_composite, ← conversion] at sent
          exact absurd sent (single kind)
        | _ => rfl
      rw [direct, assigns]
      rfl

/-- **A message is refused** for the composite columns that may not be null, and for no other
field. -/
theorem TablePlan.missing_decoderLines {t : TablePlan} (wellFormed : t.WellFormed) :
    readLines missingField? t.decoderLines =
      (t.columns.filter ColumnPlan.isRequired).map fun c => quote (Naming.field c.fieldName) := by
  have columns : readLines missingField? (t.columns.flatMap ColumnPlan.decodeLines) =
      (t.columns.filter ColumnPlan.isRequired).map fun c => quote (Naming.field c.fieldName) := by
    have conversions := wellFormed.conversions
    generalize t.columns = columns at conversions
    induction columns with
    | nil => rfl
    | cons c columns ih =>
      obtain ⟨⟨wire, conversion⟩, rest⟩ := List.forall_mem_cons.mp conversions
      rw [List.flatMap_cons, readLines_append, c.missing_decodeLines wire conversion, ih rest,
        List.filter_cons]
      cases c.isRequired <;> rfl
  have relationships :
      readLines missingField? (t.relationships.flatMap RelationshipPlan.decodeLines) = [] := by
    rw [readLines, List.filterMap_flatMap, List.flatMap_eq_nil_iff]
    intro r _
    exact missing_guardedLines _ _
  have type := missing_of_startsApart "impl TryFrom<" (by decide) (by decide)
    (t.messageName ++ ("> for " ++ (t.typeName ++ " \x7b")))
  have method := missing_of_startsApart "fn try_from(message: " (by decide) (by decide)
    (t.messageName ++ (") -> Result<Self, Self::Error>" ++ " \x7b"))
  have error : readLines missingField? ["type Error = support::WireError;", ""] = [] := by decide
  have new : readLines missingField? ["let mut value = Self::new();"] = [] := by decide
  have result : readLines missingField? ["Ok(value)"] = [] := by decide
  rw [decoderLines]
  simp only [readLines_block, readLines_append, String.append_assoc, type, method, error, new,
    result, columns, relationships, missing_brace, List.nil_append, List.append_nil]

/-! ## All parts together -/

theorem TablePlan.forall₂_fields {p : Plan} (wellFormed : p.WellFormed) {t : TablePlan}
    (ht : t ∈ p.tables) :
    List.Forall₂ (fun f w => Escapes w.name f.ident ∧ (IsOption f.type → p.HasPresence w.type))
      t.recordFields t.wireFields := by
  have table := wellFormed.tables t ht
  rw [wireFields_eq table.tags, recordFields]
  refine List.rel_append ?_ ?_
  · rw [List.forall₂_map_left_iff, List.forall₂_map_right_iff, List.forall₂_same]
    intro c hc
    have escapes : Escapes c.wireField.name c.ident := by
      rw [ColumnPlan.wireField, ColumnPlan.ident]
      exact escapes_fieldIdent c.fieldName
    have presence (option : IsOption c.type.modelType) : p.HasPresence c.wireField.type := by
      have null := FieldType.nullable_of_isOption option
      have wire := (table.conversions c hc).1
      exact p.hasPresence_declared (ColumnPlan.hasPresence_of_nullable wire null)
    dsimp only
    exact ⟨escapes, presence⟩
  · rw [List.forall₂_map_left_iff, List.forall₂_map_right_iff, List.forall₂_same]
    intro r hr
    have escapes : Escapes r.wireField.name r.ident := by
      rw [RelationshipPlan.wireField, RelationshipPlan.ident]
      exact escapes_fieldIdent r.field.fieldName
    obtain ⟨u, hu, target⟩ := List.mem_map.mp (wellFormed.target_mem t ht r hr)
    have message : r.wireField.type = u.messageName := by
      rw [RelationshipPlan.wireField, TablePlan.messageName, target, RelationshipPlan.messageName]
    have presence : p.HasPresence r.wireField.type := .inr (.inr ⟨u, hu, message⟩)
    dsimp only
    exact ⟨escapes, fun _ => presence⟩

/-- The identifiers that the lines of the record declare. -/
def TablePlan.declaredIdents (t : TablePlan) : List String :=
  (t.recordLines.filterMap recordField?).map RecordField.ident

theorem TablePlan.declaredIdents_eq (t : TablePlan) : t.declaredIdents = t.idents := by
  rw [declaredIdents, recordFields_recordLines, recordFields, idents]
  simp only [List.map_append, List.map_map, Function.comp_def]

theorem TablePlan.idents_eq (t : TablePlan) : t.idents = t.fieldNames.map fieldIdent := by
  have columns : fieldIdent ∘ ColumnPlan.fieldName = ColumnPlan.ident := by
    funext c
    rw [Function.comp_apply, ColumnPlan.ident]
  have relationships : (fieldIdent ∘ fun r : RelationshipPlan => r.field.fieldName) =
      RelationshipPlan.ident := by
    funext r
    rw [Function.comp_apply, RelationshipPlan.ident]
  rw [idents, fieldNames, List.map_append, List.map_map, List.map_map, columns, relationships]

theorem TablePlan.idents_nodup {t : TablePlan} (apart : (t.fieldNames.map Naming.field).Nodup) :
    t.idents.Nodup := by
  rw [List.Nodup, List.pairwise_map] at apart
  rw [idents_eq, List.Nodup, List.pairwise_map]
  apply apart.imp
  intro a b names idents
  exact names (fieldIdent_inj idents)

/-- The record of a table, its message and the conversions between them have the same fields. -/
structure TablePlan.Agrees (p : Plan) (t : TablePlan) : Prop where
  /-- The message has the fields of the plan, columns first, each once, with comments between. -/
  message : t.withoutComments.messageLines.filterMap wireField? = t.wireFields
  names : t.wireFields.map WireField.name = t.fieldNames.map Naming.field
  names_nodup : (t.wireFields.map WireField.name).Nodup
  commented : Commented t.withoutComments.messageLines t.messageLines
  /-- The record has the same fields, each once, and where it has null the message has presence. -/
  record : List.Forall₂
    (fun f w => Escapes w.name f.ident ∧ (IsOption f.type → p.HasPresence w.type))
    (t.recordLines.filterMap recordField?) (t.withoutComments.messageLines.filterMap wireField?)
  idents_nodup : t.declaredIdents.Nodup
  /-- Both conversions move each field of the record to or from its counterpart. -/
  encoder : toMessage.Moves t.encoderLines t.declaredIdents t.declaredIdents
  decoder : fromMessage.Moves t.decoderLines t.declaredIdents t.declaredIdents
  missing : readLines missingField? t.decoderLines =
    (t.columns.filter ColumnPlan.isRequired).map fun c => quote (Naming.field c.fieldName)

theorem TablePlan.map_name_wireFields {t : TablePlan}
    (numbered : t.tags = List.range' 1 (t.columns.length + t.relationships.length)) :
    t.wireFields.map WireField.name = t.fieldNames.map Naming.field := by
  rw [wireFields_eq numbered, fieldNames]
  simp only [List.map_append, List.map_map, Function.comp_def, ColumnPlan.wireField,
    RelationshipPlan.wireField]

/-- **Records and messages agree.** In every table of a plan, the lines of the record, of the
message and of both conversions name the same fields in the same order: those of the plan, columns
first. A field that can be null in the record has presence in the message, and a message is refused
exactly if a composite column that may not be null is missing. -/
theorem Document.artifacts_agree {d : Document} {p : Plan} (resolved : d.resolve = .ok p) :
    ∀ t ∈ p.tables, t.Agrees p := by
  intro t ht
  have wellFormed := Document.wellFormed_of_resolve resolved
  have table := wellFormed.tables t ht
  have message := TablePlan.wireFields_messageLines table.tags
  have names := TablePlan.map_name_wireFields table.tags
  have idents := t.declaredIdents_eq
  refine ⟨message, names, ?_, t.commented_messageLines, ?_, ?_, ?_, ?_,
    TablePlan.missing_decoderLines table⟩
  · rw [names]
    exact table.fields_nodup
  · rw [t.recordFields_recordLines, message]
    exact TablePlan.forall₂_fields wellFormed ht
  · rw [idents]
    exact TablePlan.idents_nodup table.fields_nodup
  · rw [idents]
    exact t.moves_encoderLines
  · rw [idents]
    exact t.moves_decoderLines

theorem worldDocument_agrees : ∃ p, worldDocument.resolve = .ok p ∧
    p.tables.map TablePlan.typeName = ["Customer", "Country", "Region"] ∧
      ∀ t ∈ p.tables, t.Agrees p := by
  obtain ⟨p, resolved, types⟩ := worldDocument_types
  exact ⟨p, resolved, types, Document.artifacts_agree resolved⟩

end Tablecast
