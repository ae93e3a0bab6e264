import Tablecast.Proofs.Artifact.WireLines

/-!
# Reading a wire schema back

The fields of a message are found in the text of a wire schema by its lines alone: they stand
behind the line that opens the message and before the next brace, between comments. Nothing that
stands elsewhere in the text or in a comment can forge such a line or hide one.

* `TablePlan.declarations_fieldLines`: the lines of a message without its comments,
* `Plan.messageBody?_wireSchemaLines`: the lines of a message among all lines,
* `Document.wireSchema_reads_back`: the text of a wire schema read message by message.
-/

namespace Tablecast

open Artifact Text

/-- A field of a message. -/
structure WireField where
  type : String
  name : String
  number : Nat
  deriving DecidableEq

/-- The field as its message declares it. -/
def WireField.declaration (f : WireField) : String :=
  f.type ++ " " ++ f.name ++ " = " ++ toString f.number ++ ";"

/-- The fields of the message by the plan: columns first, then relationships, numbered from 1. -/
def TablePlan.wireFields (t : TablePlan) : List WireField :=
  let fields := t.columns.map (fun c => (c.wire.declared, c.fieldName)) ++
    t.relationships.map fun r => (r.messageName, r.field.fieldName)
  fields.zipWith (fun (type, fieldName) number => ⟨type, Naming.field fieldName, number⟩)
    (List.range' 1 fields.length)

/-- The line that opens a message. -/
def messageOpening (name : String) : String := "message " ++ name ++ " \x7b"

/-- What stands in a message. -/
def messageBody? (name : String) (ls : List String) : Option (List String) :=
  blockBody? (messageOpening name) ls

def isComment (line : String) : Bool := ['/', '/'].isPrefixOf (trimStart line.toList)

/-- The declarations that a message holds, without the comments between them. -/
def messageDeclarations? (name : String) (ls : List String) : Option (List String) :=
  (messageBody? name ls).map (List.filter (!isComment ·))

/-! ## Comments and declarations -/

theorem isComment_mark (rest : String) : isComment (wireMargin ++ "//" ++ rest) = true := by
  have mark : (wireMargin ++ "//").toList = [' ', ' ', '/', '/'] := by decide
  have blank : isBlank ' ' = true := by decide
  have solid : isBlank '/' = false := by decide
  simp [isComment, trimStart, mark, blank, solid]

/-- A character of a name begins the text, so it is neither blank nor a comment. -/
def StartsLikeName (s : String) : Prop := ∃ c rest, s.toList = c :: rest ∧ isNameChar c = true

theorem StartsLikeName.append {s : String} (h : StartsLikeName s) (t : String) :
    StartsLikeName (s ++ t) := by
  obtain ⟨c, rest, starts, name⟩ := h
  exact ⟨c, rest ++ t.toList, by rw [String.toList_append, starts, List.cons_append], name⟩

theorem StartsLikeName.isComment {s : String} (h : StartsLikeName s) :
    isComment (wireMargin ++ s) = false := by
  obtain ⟨c, rest, starts, name⟩ := h
  have margin : wireMargin.toList = [' ', ' '] := by decide
  have blank : isBlank ' ' = true := by decide
  have solid := isBlank_of_isNameChar name
  have slash : '/' ≠ c := by
    rintro rfl
    exact absurd name (by decide)
  simp [Tablecast.isComment, trimStart, margin, blank, starts, solid, List.isPrefixOf, slash]

theorem startsLikeName_declared (w : WireType) : StartsLikeName w.declared := by
  cases w with
  | scalar kind => cases kind <;> exact ⟨_, _, rfl, by decide⟩
  | optional kind => cases kind <;> exact ⟨_, _, rfl, by decide⟩
  | composite kind => cases kind <;> exact ⟨_, _, rfl, by decide⟩

theorem startsLikeName_of_isIdentifier {s : String} (h : isIdentifier s.toList = true) :
    StartsLikeName s := by
  have chars := isNameChar_of_mem h
  unfold StartsLikeName
  cases same : s.toList with
  | nil =>
    rw [same] at h
    exact absurd h Bool.false_ne_true
  | cons c rest => exact ⟨c, rest, rfl, chars c (same ▸ List.mem_cons_self)⟩

theorem WireField.isComment_declaration {f : WireField} (type : StartsLikeName f.type) :
    isComment (wireMargin ++ f.declaration) = false :=
  ((((type.append _).append _).append _).append _).append _ |>.isComment

def ColumnPlan.wireField (c : ColumnPlan) : WireField :=
  ⟨c.wire.declared, Naming.field c.fieldName, c.tag⟩

def RelationshipPlan.wireField (r : RelationshipPlan) : WireField :=
  ⟨r.messageName, Naming.field r.field.fieldName, r.tag⟩

theorem ColumnPlan.messageLines_eq (c : ColumnPlan) :
    c.messageLines =
      commentLines c.comment (wireMargin ++ "//") ++ [wireMargin ++ c.wireField.declaration] := by
  simp only [messageLines, wireField, WireField.declaration, String.append_assoc]

theorem RelationshipPlan.messageLine_eq (r : RelationshipPlan) :
    r.messageLine = wireMargin ++ r.wireField.declaration := by
  simp only [messageLine, wireField, WireField.declaration, String.append_assoc]

theorem ColumnPlan.declarations_messageLines (c : ColumnPlan) :
    c.messageLines.filter (!isComment ·) = [wireMargin ++ c.wireField.declaration] := by
  have comments : (commentLines c.comment (wireMargin ++ "//")).filter (!isComment ·) = [] := by
    rw [List.filter_eq_nil_iff]
    intro line h
    obtain ⟨-, rest, rfl⟩ := mem_commentLines (by decide) (by decide) h
    simp [isComment_mark]
  have field : isComment (wireMargin ++ c.wireField.declaration) = false :=
    WireField.isComment_declaration (startsLikeName_declared c.wire)
  rw [messageLines_eq, List.filter_append, comments, List.filter_singleton, field]
  rfl

namespace TablePlan

/-- The numbers of a plan are those of its fields in order. -/
theorem wireFields_eq {t : TablePlan}
    (numbered : t.tags = List.range' 1 (t.columns.length + t.relationships.length)) :
    t.wireFields = t.columns.map ColumnPlan.wireField ++
      t.relationships.map RelationshipPlan.wireField := by
  have length : (t.columns.map (fun c => (c.wire.declared, c.fieldName)) ++
      t.relationships.map fun r => (r.messageName, r.field.fieldName)).length =
        t.columns.length + t.relationships.length := by
    simp
  rw [wireFields, length, ← numbered, tags, List.zipWith_append (by simp)]
  simp only [List.zipWith_map, List.zipWith_self]
  rfl

/-- What stands between the braces of a message. -/
def fieldLines (t : TablePlan) : List String :=
  t.columns.flatMap ColumnPlan.messageLines ++ t.relationships.map RelationshipPlan.messageLine

theorem wireLines_eq (t : TablePlan) :
    t.wireLines = "" :: commentLines t.comment "//" ++
      messageOpening t.messageName :: (t.fieldLines ++ "\x7d" :: "" :: t.selectLines) := by
  simp [wireLines, messageLines, fieldLines, messageOpening]

theorem fieldLines_starts {t : TablePlan} :
    ∀ line ∈ t.fieldLines, ∃ rest, line = wireMargin ++ rest := by
  intro line h
  rcases List.mem_append.mp h with column | relationship
  · obtain ⟨c, -, h⟩ := List.mem_flatMap.mp column
    rw [c.messageLines_eq] at h
    rcases List.mem_append.mp h with comment | field
    · obtain ⟨-, rest, rfl⟩ := mem_commentLines (by decide) (by decide) comment
      exact ⟨"//" ++ rest, String.append_assoc⟩
    · exact ⟨_, List.mem_singleton.mp field⟩
  · obtain ⟨r, -, rfl⟩ := List.mem_map.mp relationship
    exact ⟨_, r.messageLine_eq⟩

theorem brace_notMem_fieldLines (t : TablePlan) : "\x7d" ∉ t.fieldLines := by
  intro brace
  obtain ⟨rest, same⟩ := fieldLines_starts _ brace
  have apart : StartsApart "\x7d" wireMargin := by decide
  exact apart.append_ne "" rest same

theorem declarations_fieldLines {t : TablePlan}
    (targets : ∀ r ∈ t.relationships, isIdentifier r.field.targetType.toList = true) :
    t.fieldLines.filter (!isComment ·) =
      (t.columns.map ColumnPlan.wireField ++ t.relationships.map RelationshipPlan.wireField).map
        (wireMargin ++ ·.declaration) := by
  have columns : t.columns.flatMap (fun c => c.messageLines.filter (!isComment ·)) =
      (t.columns.map ColumnPlan.wireField).map (wireMargin ++ ·.declaration) := by
    simp only [ColumnPlan.declarations_messageLines, List.map_map, ← List.map_eq_flatMap,
      Function.comp_def]
  have relationships : (t.relationships.map RelationshipPlan.messageLine).filter (!isComment ·) =
      (t.relationships.map RelationshipPlan.wireField).map (wireMargin ++ ·.declaration) := by
    rw [List.filter_eq_self.mpr]
    · simp [RelationshipPlan.messageLine_eq]
    · intro line h
      obtain ⟨r, hr, rfl⟩ := List.mem_map.mp h
      have type : StartsLikeName r.wireField.type :=
        (startsLikeName_of_isIdentifier (targets r hr)).append "Proto"
      rw [r.messageLine_eq, WireField.isComment_declaration type]
      rfl
  rw [fieldLines, List.filter_append, List.filter_flatMap, columns, relationships, List.map_append]

end TablePlan

/-! ## Messages among all lines -/

theorem messageOpening_notMem {name : String} {ls : List String}
    (undeclared : .message name ∉ ls.filterMap declaredItem?) : messageOpening name ∉ ls :=
  fun h => undeclared (List.mem_filterMap.mpr ⟨_, h, declaredItem?_message name⟩)

/-- A message is not declared by tables of other types. -/
theorem message_notMem_items {t : TablePlan} {tables : List TablePlan}
    (other : ∀ u ∈ tables, u.typeName ≠ t.typeName) :
    WireItem.message t.messageName ∉ tables.flatMap fun u => u.messages.map .message := by
  intro h
  obtain ⟨u, hu, declared⟩ := List.mem_flatMap.mp h
  obtain ⟨name, mem, same⟩ := List.mem_map.mp declared
  cases same
  exact other u hu (TablePlan.typeName_eq_of_mem_messages mem List.mem_cons_self)

/-- What stands before the message of a table: the head of the schema, the tables before it and
its comment. -/
def Plan.linesBefore (p : Plan) (s : Settings) (earlier : List TablePlan) (t : TablePlan) :
    List String :=
  marker :: "" :: p.serviceLines s ++ earlier.flatMap TablePlan.wireLines ++
    "" :: commentLines t.comment "//"

theorem Plan.declaredItems_linesBefore (p : Plan) (s : Settings) (earlier : List TablePlan)
    (t : TablePlan) :
    (p.linesBefore s earlier t).filterMap declaredItem? =
      .service s.serviceName :: earlier.flatMap fun u => u.messages.map .message := by
  have header : declaredItem? marker = none := by decide
  have blank : declaredItem? "" = none := by decide
  have comment := filterMap_commentLines (f := declaredItem?) "//" t.comment
    (by decide) (by decide) (OpensNothing.declaredItem? (by decide))
  simp [linesBefore, List.filterMap_flatMap, header, blank, comment, p.declaredItems_serviceLines,
    TablePlan.declaredItems_wireLines]

/-- Among all lines of a wire schema, the first that opens the message of a table is the line
behind the table's comment, and the next brace closes that message. -/
theorem Plan.messageBody?_wireSchemaLines {p : Plan}
    (distinct : (p.tables.map TablePlan.typeName).Nodup) (s : Settings) {t : TablePlan}
    (ht : t ∈ p.tables) :
    messageBody? t.messageName (marker :: "" :: p.wireSchemaLines s ++ [""]) =
      some t.fieldLines := by
  obtain ⟨earlier, later, split⟩ := List.append_of_mem ht
  have other : ∀ u ∈ earlier, u.typeName ≠ t.typeName := by
    intro u hu same
    rw [split, List.map_append, List.map_cons, List.nodup_append] at distinct
    exact distinct.2.2 _ (List.mem_map_of_mem hu) _ List.mem_cons_self same
  -- A line that opens a message declares it, so what the lines declare together is enough.
  have first : messageOpening t.messageName ∉ p.linesBefore s earlier t := by
    apply messageOpening_notMem
    rw [p.declaredItems_linesBefore, List.mem_cons, not_or]
    exact ⟨WireItem.noConfusion, message_notMem_items other⟩
  have whole : marker :: "" :: p.wireSchemaLines s ++ [""] =
      p.linesBefore s earlier t ++ messageOpening t.messageName :: (t.fieldLines ++ "\x7d" ::
        ("" :: t.selectLines ++ later.flatMap TablePlan.wireLines ++ [""])) := by
    simp [linesBefore, p.wireSchemaLines_eq, split, t.wireLines_eq]
  rw [whole]
  exact blockBody?_eq_some first t.brace_notMem_fieldLines

/-- **The wire schema reads back as its plan.** A document whose types are identifiers is rendered
by any settings that pass; and in the text, the declarations of the message of each table are the
fields of the plan in order, numbered from 1, whatever the comments, the imports and the names in
the database are. -/
theorem Document.wireSchema_reads_back {d : Document} {p : Plan} {s : Settings}
    (resolved : d.resolve = .ok p) (valid : s.validate = .ok ())
    (identifiers : d.TypesAreIdentifiers) :
    ∃ a, d.render s = .ok a ∧ ∀ t ∈ p.tables,
      messageDeclarations? t.messageName (lines a.wireSchema) =
        some (t.wireFields.map (wireMargin ++ ·.declaration)) := by
  refine ⟨p.artifacts s, Document.render_eq_ok.mpr ⟨valid, p, resolved, rfl⟩, fun t ht => ?_⟩
  have wellFormed := Document.wellFormed_of_resolve resolved
  have types := Document.typeNames_of_resolve resolved identifiers
  have targets : ∀ r ∈ t.relationships, isIdentifier r.field.targetType.toList = true :=
    fun r hr => types _ (wellFormed.target_mem t ht r hr)
  rw [messageDeclarations?, Document.lines_wireSchema resolved valid identifiers,
    Plan.messageBody?_wireSchemaLines wellFormed.types_nodup s ht, Option.map_some,
    TablePlan.declarations_fieldLines targets,
    TablePlan.wireFields_eq (wellFormed.tables t ht).tags]

/-- A region whose names and comments look like lines of a wire schema. -/
def forgedDocument : Document where
  databases := [
    ⟨"ORCL", [⟨"SH\n\x7d", [
      ⟨"REGIONS\n\x7d", "Region", "Regions",
        some "\x7d\nmessage RegionProto \x7b\n  int32 area = 1;\n\x7d",
        [⟨"NAME", "Name", "VARCHAR2(20)", true, none, some "short\r\n\x7d\n  int32 area = 1;"⟩,
          ⟨"AREA\n\x7d", "Area", "NUMBER(10,2)", false, none, some " "⟩],
        [⟨"NAME", "Region", "Parent"⟩]⟩]⟩]⟩]

def forgedSettings : Settings :=
  { Settings.initial with
    sharedImports := ["shared.proto\";\nmessage RegionProto \x7b\n\x7d", "\x7d\n"] }

theorem forgedDocument_reads_back :
    ∃ a, forgedDocument.render forgedSettings = .ok a ∧
      messageDeclarations? "RegionProto" (lines a.wireSchema) =
        some ["  optional string name = 1;", "  DecimalProto area = 2;",
          "  RegionProto parent = 3;"] := by
  have evaluated : forgedDocument.resolve.toOption.map (fun p => p.tables.map fun t =>
      (t.messageName, t.wireFields.map (wireMargin ++ ·.declaration))) =
        some [("RegionProto", ["  optional string name = 1;", "  DecimalProto area = 2;",
          "  RegionProto parent = 3;"])] := by
    decide +kernel
  obtain ⟨p, resolved, tables⟩ := Option.map_eq_some_iff.mp evaluated
  have region : ("RegionProto", ["  optional string name = 1;", "  DecimalProto area = 2;",
      "  RegionProto parent = 3;"]) ∈ p.tables.map fun t =>
        (t.messageName, t.wireFields.map (wireMargin ++ ·.declaration)) :=
    tables ▸ List.mem_singleton_self _
  obtain ⟨t, ht, same⟩ := List.mem_map.mp region
  obtain ⟨name, fields⟩ := Prod.mk.inj same
  have valid : forgedSettings.validate = .ok () := by decide +kernel
  have identifiers : forgedDocument.TypesAreIdentifiers := by
    unfold Document.TypesAreIdentifiers
    decide +kernel
  obtain ⟨a, rendered, declarations⟩ :=
    Document.wireSchema_reads_back (toOption_eq_some.mp resolved) valid identifiers
  exact ⟨a, rendered, name ▸ fields ▸ declarations t ht⟩

end Tablecast
