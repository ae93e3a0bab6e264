import Tablecast.Proofs.Plan.Structure
import Tablecast.Proofs.Text.Line

/-!
# The names of a wire schema

A wire schema declares one service and three messages for every table. The messages are named
after the table's type, each in its own way, so they are all different when the types are. The
name of the service comes from the settings, and the schema uses two messages that it only
imports; nothing keeps these three apart from the messages of the tables.

* `Plan.declaredItems_wireSchemaLines`: what the lines of a wire schema declare,
* `Plan.blockBody?_service`: what stands in its service,
* `Document.wireItems_apart_iff`: when the names are all different, and different from those of
  the imported messages.
-/

namespace Tablecast

open Artifact Text

/-- What a wire schema declares at top level, by its name. -/
inductive WireItem where
  | service (name : String)
  | message (name : String)
  deriving DecidableEq

def WireItem.name : WireItem → String
  | .service name | .message name => name

/-- The item that a line of a wire schema opens. -/
def declaredItem? (line : String) : Option WireItem :=
  ((between? "service " " \x7b" line).map .service).or
    ((between? "message " " \x7b" line).map .message)

namespace TablePlan

/-- The messages of a table: its record, the request that selects records and the reply. -/
def messages (t : TablePlan) : List String := [t.messageName, t.requestName, t.replyName]

def rpcNames (t : TablePlan) : List String := [t.selectName, t.streamName]

end TablePlan

def Plan.wireItems (p : Plan) (s : Settings) : List WireItem :=
  .service s.serviceName :: p.tables.flatMap fun t => t.messages.map .message

/-! ## Lines that open an item -/

/-- A text that begins neither like a service nor like a message. -/
def OpensNothing (start : String) : Prop :=
  StartsApart "service " start ∧ StartsApart "message " start

instance (start : String) : Decidable (OpensNothing start) :=
  inferInstanceAs (Decidable (_ ∧ _))

theorem OpensNothing.declaredItem? {start : String} (h : OpensNothing start) (rest : String) :
    declaredItem? (start ++ rest) = none := by
  rw [Tablecast.declaredItem?, between?_of_startsApart h.1, between?_of_startsApart h.2]
  rfl

theorem declaredItem?_service (name : String) :
    declaredItem? ("service " ++ name ++ " \x7b") = some (.service name) := by
  rw [declaredItem?, between?_eq_some.mpr rfl]
  rfl

theorem declaredItem?_message (name : String) :
    declaredItem? ("message " ++ name ++ " \x7b") = some (.message name) := by
  have other : between? "service " " \x7b" ("message " ++ (name ++ " \x7b")) = none :=
    between?_of_startsApart (by decide)
  rw [← String.append_assoc] at other
  rw [declaredItem?, other, between?_eq_some.mpr rfl]
  rfl

theorem declaredItems_margin (body : List String) :
    (body.map (wireMargin ++ ·)).filterMap declaredItem? = [] := by
  rw [List.filterMap_eq_nil_iff]
  intro line h
  obtain ⟨inner, -, rfl⟩ := List.mem_map.mp h
  exact OpensNothing.declaredItem? (by decide) inner

theorem declaredItems_wireBlock (head : String) (body : List String) :
    (wireBlock head body).filterMap declaredItem? = (declaredItem? (head ++ " \x7b")).toList := by
  have brace : declaredItem? "\x7d" = none := by decide
  rw [wireBlock, List.filterMap_append, List.filterMap_cons, declaredItems_margin]
  cases declaredItem? (head ++ " \x7b") <;> simp [brace]

/-! ## Lines of a schema -/

theorem Settings.declaredItems_preambleLines (s : Settings) :
    s.preambleLines.filterMap declaredItem? = [] := by
  have imports : s.importLines.filterMap declaredItem? = [] := by
    rw [List.filterMap_eq_nil_iff]
    intro line h
    unfold importLines at h
    split at h
    · exact absurd h List.not_mem_nil
    · rcases List.mem_cons.mp h with rfl | h
      · decide
      · obtain ⟨file, -, rfl⟩ := List.mem_map.mp h
        rw [String.append_assoc]
        exact OpensNothing.declaredItem? (by decide) _
  have first : declaredItem? "syntax = \"proto3\";" = none := by decide
  have blank : declaredItem? "" = none := by decide
  have package : OpensNothing "package " := by decide
  simp only [preambleLines, List.filterMap_append, List.filterMap_cons, List.filterMap_nil, imports,
    first, blank, String.append_assoc, package.declaredItem?, List.append_nil]

namespace TablePlan

theorem declaredItems_messageLines (t : TablePlan) :
    t.messageLines.filterMap declaredItem? = [.message t.messageName] := by
  have comment := filterMap_commentLines (f := declaredItem?) "//" t.comment
    (by decide) (by decide) (OpensNothing.declaredItem? (by decide))
  have columns : ∀ c ∈ t.columns, c.messageLines.filterMap declaredItem? = [] := by
    intro c _
    have comment := filterMap_commentLines (f := declaredItem?) (wireMargin ++ "//") c.comment
      (by decide) (by decide) (OpensNothing.declaredItem? (by decide))
    have field : OpensNothing wireMargin := by decide
    rw [ColumnPlan.messageLines, List.filterMap_append, comment]
    simp only [String.append_assoc, List.filterMap_cons, List.filterMap_nil, List.nil_append,
      field.declaredItem?]
  have relationships :
      (t.relationships.map RelationshipPlan.messageLine).filterMap declaredItem? = [] := by
    rw [List.filterMap_eq_nil_iff]
    intro line h
    obtain ⟨r, -, rfl⟩ := List.mem_map.mp h
    simp only [RelationshipPlan.messageLine, String.append_assoc]
    exact OpensNothing.declaredItem? (by decide) _
  have brace : declaredItem? "\x7d" = none := by decide
  simp only [messageLines, List.filterMap_append, List.filterMap_flatMap, List.filterMap_cons,
    List.filterMap_nil, comment, relationships, brace, declaredItem?_message]
  simpa using columns

theorem declaredItems_selectLines (t : TablePlan) :
    t.selectLines.filterMap declaredItem? = [.message t.requestName, .message t.replyName] := by
  have blank : declaredItem? "" = none := by decide
  simp only [selectLines, List.filterMap_append, List.filterMap_cons, List.filterMap_nil, blank,
    declaredItems_wireBlock, declaredItem?_message]
  rfl

/-- What a wire schema holds for one table. -/
def wireLines (t : TablePlan) : List String := [""] ++ t.messageLines ++ [""] ++ t.selectLines

theorem declaredItems_wireLines (t : TablePlan) :
    t.wireLines.filterMap declaredItem? = t.messages.map .message := by
  have blank : declaredItem? "" = none := by decide
  simp only [wireLines, List.filterMap_append, List.filterMap_cons, List.filterMap_nil, blank,
    declaredItems_messageLines, declaredItems_selectLines]
  rfl

end TablePlan

/-- What a wire schema holds before the messages of the tables. -/
def Plan.serviceLines (p : Plan) (s : Settings) : List String :=
  s.preambleLines ++ [""] ++
    wireBlock ("service " ++ s.serviceName) (p.tables.flatMap TablePlan.rpcLines)

theorem Plan.declaredItems_serviceLines (p : Plan) (s : Settings) :
    (p.serviceLines s).filterMap declaredItem? = [.service s.serviceName] := by
  have blank : declaredItem? "" = none := by decide
  simp only [serviceLines, List.filterMap_append, List.filterMap_cons, List.filterMap_nil, blank,
    s.declaredItems_preambleLines, declaredItems_wireBlock, declaredItem?_service]
  rfl

theorem Plan.wireSchemaLines_eq (p : Plan) (s : Settings) :
    p.wireSchemaLines s = p.serviceLines s ++ p.tables.flatMap TablePlan.wireLines := rfl

/-- A wire schema declares its service and the messages of every table, and nothing else. -/
theorem Plan.declaredItems_wireSchemaLines (p : Plan) (s : Settings) :
    (p.wireSchemaLines s).filterMap declaredItem? = p.wireItems s := by
  rw [wireSchemaLines_eq, List.filterMap_append, p.declaredItems_serviceLines,
    List.filterMap_flatMap]
  simp only [TablePlan.declaredItems_wireLines]
  rfl

/-! ## The service -/

/-- What stands in a block: the lines behind the first one that opens it, up to the next brace. -/
def blockBody? (opening : String) (ls : List String) : Option (List String) :=
  match ls.dropWhile (· != opening) with
  | [] => none
  | _ :: rest => if "\x7d" ∈ rest then some (rest.takeWhile (· != "\x7d")) else none

theorem blockBody?_eq_some {opening : String} {before body after : List String}
    (first : opening ∉ before) (unclosed : "\x7d" ∉ body) :
    blockBody? opening (before ++ opening :: (body ++ "\x7d" :: after)) = some body := by
  have reached := dropWhile_append_mark (bne_of_notMem first) (bne_self_eq_false opening)
    (body ++ "\x7d" :: after)
  have taken := takeWhile_append_mark (bne_of_notMem unclosed) (bne_self_eq_false "\x7d") after
  have closed : "\x7d" ∈ body ++ "\x7d" :: after := by simp
  rw [blockBody?, reached]
  dsimp only
  rw [if_pos closed, taken]

/-- The line that opens the service. -/
def Settings.serviceOpening (s : Settings) : String := "service " ++ s.serviceName ++ " \x7b"

/-- Only the line that opens the service declares one. -/
theorem Settings.serviceOpening_notMem (s : Settings) :
    s.serviceOpening ∉ s.preambleLines ++ [""] := by
  intro h
  have declared : .service s.serviceName ∈ (s.preambleLines ++ [""]).filterMap declaredItem? :=
    List.mem_filterMap.mpr ⟨_, h, declaredItem?_service s.serviceName⟩
  have blank : [""].filterMap declaredItem? = [] := by decide
  rw [List.filterMap_append, s.declaredItems_preambleLines, blank] at declared
  exact absurd declared List.not_mem_nil

/-- **The service of a wire schema** holds a line for every procedure, and no other line. -/
theorem Plan.blockBody?_service (p : Plan) (s : Settings) :
    blockBody? s.serviceOpening (p.wireSchemaLines s) =
      some ((p.tables.flatMap TablePlan.rpcLines).map (wireMargin ++ ·)) := by
  have unclosed : "\x7d" ∉ (p.tables.flatMap TablePlan.rpcLines).map (wireMargin ++ ·) := by
    intro brace
    obtain ⟨line, -, same⟩ := List.mem_map.mp brace
    have apart : StartsApart wireMargin "\x7d" := by decide
    exact apart.append_ne line "" same
  have whole : p.wireSchemaLines s = (s.preambleLines ++ [""]) ++
      s.serviceOpening :: ((p.tables.flatMap TablePlan.rpcLines).map (wireMargin ++ ·) ++
        "\x7d" :: p.tables.flatMap TablePlan.wireLines) := by
    simp [wireSchemaLines_eq, serviceLines, wireBlock, Settings.serviceOpening]
  rw [whole]
  exact blockBody?_eq_some s.serviceOpening_notMem unclosed

/-! ## Names that are apart -/

namespace TablePlan

variable {t u : TablePlan}

theorem messageName_inj : t.messageName = u.messageName ↔ t.typeName = u.typeName :=
  Naming.message_injective.eq_iff

theorem selectName_inj : t.selectName = u.selectName ↔ t.typeName = u.typeName :=
  String.append_right_inj _

theorem streamName_inj : t.streamName = u.streamName ↔ t.typeName = u.typeName :=
  String.append_right_inj _

theorem requestName_inj : t.requestName = u.requestName ↔ t.typeName = u.typeName :=
  (String.append_left_inj _).trans selectName_inj

theorem replyName_inj : t.replyName = u.replyName ↔ t.typeName = u.typeName :=
  (String.append_left_inj _).trans selectName_inj

theorem selectName_ne_streamName : t.selectName ≠ u.streamName :=
  StartsApart.append_ne (by decide) _ _

theorem messageName_ne_requestName : t.messageName ≠ u.requestName :=
  EndsApart.append_ne (by decide) _ _

theorem messageName_ne_replyName : t.messageName ≠ u.replyName :=
  EndsApart.append_ne (by decide) _ _

theorem requestName_ne_replyName : t.requestName ≠ u.replyName :=
  EndsApart.append_ne (by decide) _ _

/-- A name among the messages of a table shows its type. -/
theorem typeName_eq_of_mem_messages {n : String} (ht : n ∈ t.messages) (hu : n ∈ u.messages) :
    t.typeName = u.typeName := by
  simp only [messages, List.mem_cons, List.not_mem_nil, or_false] at ht hu
  rcases ht with rfl | rfl | rfl
  · rcases hu with same | same | same
    · exact messageName_inj.mp same
    · exact absurd same messageName_ne_requestName
    · exact absurd same messageName_ne_replyName
  · rcases hu with same | same | same
    · exact absurd same.symm messageName_ne_requestName
    · exact requestName_inj.mp same
    · exact absurd same requestName_ne_replyName
  · rcases hu with same | same | same
    · exact absurd same.symm messageName_ne_replyName
    · exact absurd same.symm requestName_ne_replyName
    · exact replyName_inj.mp same

theorem typeName_eq_of_mem_rpcNames {n : String} (ht : n ∈ t.rpcNames) (hu : n ∈ u.rpcNames) :
    t.typeName = u.typeName := by
  simp only [rpcNames, List.mem_cons, List.not_mem_nil, or_false] at ht hu
  rcases ht with rfl | rfl
  · rcases hu with same | same
    · exact selectName_inj.mp same
    · exact absurd same selectName_ne_streamName
  · rcases hu with same | same
    · exact absurd same.symm selectName_ne_streamName
    · exact streamName_inj.mp same

theorem messages_nodup (t : TablePlan) : t.messages.Nodup := by
  simp [messages, messageName_ne_requestName, messageName_ne_replyName, requestName_ne_replyName]

theorem rpcNames_nodup (t : TablePlan) : t.rpcNames.Nodup := by
  simp [rpcNames, selectName_ne_streamName]

theorem append_ne_composite {tail : String} (apart : EndsApart tail "Proto") (s : String)
    (kind : CompositeKind) : s ++ tail ≠ kind.messageName := by
  have decimal : CompositeKind.decimal.messageName = "Decimal" ++ "Proto" := by decide
  have date : CompositeKind.date.messageName = "Date" ++ "Proto" := by decide
  cases kind with
  | decimal => exact decimal ▸ apart.append_ne s _
  | date => exact date ▸ apart.append_ne s _

/-- Only the record of a type that is called like a composite value takes the name of a message
that carries such values. -/
theorem messages_ne_composite_iff :
    (∀ n ∈ t.messages, ∀ kind : CompositeKind, n ≠ kind.messageName) ↔
      t.typeName ≠ "Decimal" ∧ t.typeName ≠ "Date" := by
  have decimal : CompositeKind.decimal.messageName = Naming.message "Decimal" := by decide
  have date : CompositeKind.date.messageName = Naming.message "Date" := by decide
  have request : ∀ kind : CompositeKind, t.requestName ≠ kind.messageName :=
    append_ne_composite (by decide) t.selectName
  have reply : ∀ kind : CompositeKind, t.replyName ≠ kind.messageName :=
    append_ne_composite (by decide) t.selectName
  simp only [messages, List.forall_mem_cons]
  constructor
  · rintro ⟨record, -⟩
    refine ⟨fun same => record .decimal ?_, fun same => record .date ?_⟩
    · rw [decimal, messageName, same]
    · rw [date, messageName, same]
  · rintro ⟨notDecimal, notDate⟩
    refine ⟨fun kind same => ?_, request, reply, fun _ h => absurd h List.not_mem_nil⟩
    cases kind with
    | decimal => exact notDecimal (Naming.message_injective (same.trans decimal))
    | date => exact notDate (Naming.message_injective (same.trans date))

end TablePlan

/-- Names that show the type of their table are different if the types are. -/
theorem nodup_flatMap_tables {tables : List TablePlan} {names : TablePlan → List String}
    (distinct : (tables.map TablePlan.typeName).Nodup) (each : ∀ t, (names t).Nodup)
    (shown : ∀ {t u : TablePlan} {n : String}, n ∈ names t → n ∈ names u →
      t.typeName = u.typeName) : (tables.flatMap names).Nodup := by
  rw [List.nodup_flatMap]
  refine ⟨fun t _ => each t, (List.pairwise_map.mp distinct).imp ?_⟩
  intro t u different n ht hu
  exact different (shown ht hu)

theorem Plan.names_wireItems (p : Plan) (s : Settings) :
    (p.wireItems s).map WireItem.name = s.serviceName :: p.tables.flatMap TablePlan.messages := by
  simp [wireItems, WireItem.name, List.map_flatMap, Function.comp_def]

/-- The procedure that a line of the service declares. -/
def DeclaresRpc (line name : String) : Prop := ∃ rest, line = "rpc " ++ name ++ " (" ++ rest

theorem declaresRpc_rpcLines (tables : List TablePlan) :
    List.Forall₂ DeclaresRpc (tables.flatMap TablePlan.rpcLines)
      (tables.flatMap TablePlan.rpcNames) := by
  induction tables with
  | nil => exact .nil
  | cons t rest ih =>
    have select : DeclaresRpc ("rpc " ++ t.selectName ++ " (" ++ t.requestName ++ ") returns (" ++
        t.replyName ++ ");") t.selectName := by
      refine ⟨t.requestName ++ ") returns (" ++ t.replyName ++ ");", ?_⟩
      simp only [String.append_assoc]
    have stream : DeclaresRpc ("rpc " ++ t.streamName ++ " (" ++ t.requestName ++
        ") returns (stream " ++ t.messageName ++ ");") t.streamName := by
      refine ⟨t.requestName ++ ") returns (stream " ++ t.messageName ++ ");", ?_⟩
      simp only [String.append_assoc]
    exact .cons select (.cons stream ih)

/-- **When the names of a wire schema are apart.** The service holds its procedures and nothing
else. They are always all different, and so are the messages of the tables. The service is different
from these messages, and no name is that of an imported message, exactly if the name of the service
is none of these and no type is called like a composite value. -/
theorem Document.wireItems_apart_iff {d : Document} {p : Plan} (h : d.resolve = .ok p)
    (s : Settings) :
    (p.wireSchemaLines s).filterMap declaredItem? = p.wireItems s ∧
      blockBody? s.serviceOpening (p.wireSchemaLines s) =
        some ((p.tables.flatMap TablePlan.rpcLines).map (wireMargin ++ ·)) ∧
      List.Forall₂ DeclaresRpc (p.tables.flatMap TablePlan.rpcLines)
        (p.tables.flatMap TablePlan.rpcNames) ∧
      (p.tables.flatMap TablePlan.rpcNames).Nodup ∧
      (p.tables.flatMap TablePlan.messages).Nodup ∧
      (((p.wireItems s).map WireItem.name).Nodup ∧
          (∀ n ∈ (p.wireItems s).map WireItem.name, ∀ kind : CompositeKind,
            n ≠ kind.messageName) ↔
        (∀ kind : CompositeKind, s.serviceName ≠ kind.messageName) ∧
          ∀ t ∈ p.tables, s.serviceName ∉ t.messages ∧
            t.typeName ≠ "Decimal" ∧ t.typeName ≠ "Date") := by
  have distinct := (Document.wellFormed_of_resolve h).types_nodup
  have rpcs := nodup_flatMap_tables distinct TablePlan.rpcNames_nodup
    TablePlan.typeName_eq_of_mem_rpcNames
  have messages := nodup_flatMap_tables distinct TablePlan.messages_nodup
    TablePlan.typeName_eq_of_mem_messages
  refine ⟨p.declaredItems_wireSchemaLines s, p.blockBody?_service s,
    declaresRpc_rpcLines p.tables, rpcs, messages, ?_⟩
  rw [p.names_wireItems, List.nodup_cons, List.forall_mem_cons, List.forall_mem_flatMap]
  simp only [messages, and_true, List.mem_flatMap, not_exists, not_and,
    TablePlan.messages_ne_composite_iff]
  grind

theorem worldDocument_wireItems_apart :
    ∃ p, worldDocument.resolve = .ok p ∧
      p.tables.map TablePlan.typeName = ["Customer", "Country", "Region"] ∧
      ((p.wireItems .initial).map WireItem.name).Nodup ∧
      (p.tables.flatMap TablePlan.rpcNames).Nodup := by
  obtain ⟨p, resolved, types⟩ := worldDocument_types
  have service : ∀ kind : CompositeKind, Settings.initial.serviceName ≠ kind.messageName := by
    intro kind
    cases kind <;> decide
  have apart : ∀ n ∈ p.tables.map TablePlan.typeName,
      Settings.initial.serviceName ∉
          [Naming.message n, "Select" ++ n ++ "Request", "Select" ++ n ++ "Reply"] ∧
        n ≠ "Decimal" ∧ n ≠ "Date" := by
    rw [types]
    decide
  simp only [List.forall_mem_map] at apart
  obtain ⟨-, -, -, rpcs, -, names⟩ := Document.wireItems_apart_iff resolved .initial
  exact ⟨p, resolved, types, (names.mpr ⟨service, apart⟩).1, rpcs⟩

/-- A type that is called like a composite value. -/
def decimalDocument : Document where
  databases := [
    ⟨"ORCL", [⟨"SH", [
      ⟨"DECIMALS", "Decimal", "Decimals", none,
        [⟨"AMOUNT", "Amount", "NUMBER(10,2)", false, none, none⟩], []⟩]⟩]⟩]

/-- Its record takes the name of the message that carries decimal values, and a service may take
the name of the record. -/
theorem decimalDocument_wireItems_clash :
    Settings.initial.validate = .ok () ∧
      { Settings.initial with serviceName := "DecimalProto" }.validate = .ok () ∧
      ∃ p, decimalDocument.resolve = .ok p ∧
        (p.wireSchemaLines .initial).filterMap declaredItem? =
          [.service "Orm", .message CompositeKind.decimal.messageName,
            .message "SelectDecimalRequest", .message "SelectDecimalReply"] ∧
        (p.wireSchemaLines { Settings.initial with serviceName := "DecimalProto" }).filterMap
            declaredItem? =
          [.service "DecimalProto", .message "DecimalProto", .message "SelectDecimalRequest",
            .message "SelectDecimalReply"] := by
  refine ⟨by decide +kernel, by decide +kernel, ?_⟩
  have evaluated : decimalDocument.resolve.toOption.map (fun p =>
      ((p.wireSchemaLines .initial).filterMap declaredItem?,
        (p.wireSchemaLines { Settings.initial with serviceName := "DecimalProto" }).filterMap
          declaredItem?)) =
      some ([.service "Orm", .message CompositeKind.decimal.messageName,
          .message "SelectDecimalRequest", .message "SelectDecimalReply"],
        [.service "DecimalProto", .message "DecimalProto", .message "SelectDecimalRequest",
          .message "SelectDecimalReply"]) := by
    decide +kernel
  simpa only [Option.map_eq_some_iff, toOption_eq_some, Prod.mk.injEq] using evaluated

end Tablecast
