import Tablecast.Proofs.Artifact.Render
import Tablecast.Proofs.Artifact.WireNames
import Tablecast.Proofs.Text.Casing

/-!
# The lines of a wire schema

A wire schema falls into the lines that it is rendered from. Comments go in cut and the names of
imported files quoted; the names of the service and of its package are identifiers, or the settings
would not pass. The names of types have to be identifiers by assumption, since validation takes any.

* `Plan.isLine_wireSchemaLines`: every line that is rendered is one line,
* `Document.lines_wireSchema`: so the text falls into just these.
-/

namespace Tablecast

open Artifact Text

/-! ## Identifiers -/

theorem isLine_of_isIdentifier {s : String} (h : isIdentifier s.toList = true) : IsLine s :=
  fun feed => absurd (isNameChar_of_mem h _ feed) (by decide)

theorem isLine_of_pieces {p : Char → Bool} {s : String} (kept : p '\n' = false)
    (h : ∀ piece ∈ pieces p s.toList, '\n' ∉ piece) : IsLine s := by
  intro feed
  rcases separates_or_mem_pieces (p := p) feed with separates | ⟨piece, cut, inside⟩
  · exact absurd (kept.symm.trans separates) Bool.false_ne_true
  · exact h piece cut inside

/-! ## Lines of a table -/

theorem isLine_declared (w : WireType) : IsLine w.declared := by
  cases w with
  | scalar kind => cases kind <;> decide
  | optional kind => cases kind <;> decide
  | composite kind => cases kind <;> decide

theorem ColumnPlan.isLine_messageLines (c : ColumnPlan) : ∀ line ∈ c.messageLines, IsLine line := by
  have margin : IsLine wireMargin := by decide
  have signs : IsLine " " ∧ IsLine " = " ∧ IsLine ";" := by decide
  rw [messageLines, List.forall_mem_append, List.forall_mem_singleton]
  constructor
  · exact fun line h => (mem_commentLines (by decide) (by decide) h).1
  · simp only [isLine_append, margin, signs, isLine_declared, isLine_field, isLine_toString,
      and_true]

theorem RelationshipPlan.isLine_messageLine {r : RelationshipPlan}
    (target : IsLine r.field.targetType) : IsLine r.messageLine := by
  have margin : IsLine wireMargin := by decide
  have signs : IsLine " " ∧ IsLine " = " ∧ IsLine ";" ∧ IsLine "Proto" := by decide
  simp only [messageLine, messageName, Naming.message, isLine_append, margin, signs, target,
    isLine_field, isLine_toString, and_true]

theorem isLine_wireBlock {head : String} {body : List String} (opens : IsLine head)
    (inside : ∀ line ∈ body, IsLine line) : ∀ line ∈ wireBlock head body, IsLine line := by
  have margin : IsLine wireMargin := by decide
  have braces : IsLine " \x7b" ∧ IsLine "\x7d" := by decide
  simp only [wireBlock, List.cons_append, List.forall_mem_cons, List.forall_mem_append,
    List.forall_mem_map, List.not_mem_nil, false_implies, implies_true, isLine_append, opens,
    margin, braces, true_and, and_true]
  exact inside

namespace TablePlan

variable {t : TablePlan} (type : IsLine t.typeName)

include type

theorem isLine_names :
    IsLine t.messageName ∧ IsLine t.selectName ∧ IsLine t.streamName ∧ IsLine t.requestName ∧
      IsLine t.replyName := by
  have affixes : IsLine "Proto" ∧ IsLine "Select" ∧ IsLine "Stream" ∧ IsLine "Request" ∧
      IsLine "Reply" := by
    decide
  simp only [messageName, Naming.message, requestName, replyName, selectName, streamName,
    isLine_append, affixes, type, and_self]

theorem isLine_rpcLines : ∀ line ∈ t.rpcLines, IsLine line := by
  have names := isLine_names type
  have signs : IsLine "rpc " ∧ IsLine " (" ∧ IsLine ") returns (" ∧ IsLine ") returns (stream " ∧
      IsLine ");" := by
    decide
  simp only [rpcLines, List.forall_mem_cons, List.not_mem_nil, false_implies, implies_true,
    isLine_append, names, signs, and_self]

theorem isLine_messageLines (targets : ∀ r ∈ t.relationships, IsLine r.field.targetType) :
    ∀ line ∈ t.messageLines, IsLine line := by
  have names := isLine_names type
  have signs : IsLine "message " ∧ IsLine " \x7b" ∧ IsLine "\x7d" := by decide
  have comment : ∀ line ∈ commentLines t.comment "//", IsLine line :=
    fun line h => (mem_commentLines (by decide) (by decide) h).1
  have columns : ∀ c ∈ t.columns, ∀ line ∈ c.messageLines, IsLine line :=
    fun c _ => c.isLine_messageLines
  have relationships : ∀ r ∈ t.relationships, IsLine r.messageLine :=
    fun r hr => RelationshipPlan.isLine_messageLine (targets r hr)
  simp only [messageLines, List.forall_mem_append, List.forall_mem_singleton,
    List.forall_mem_flatMap, List.forall_mem_map, isLine_append, names, signs, and_self, and_true]
  exact ⟨⟨comment, columns⟩, relationships⟩

theorem isLine_selectLines : ∀ line ∈ t.selectLines, IsLine line := by
  have names := isLine_names type
  have heads : IsLine "message " ∧ IsLine "" := by decide
  have signs : IsLine "string request = 1;" ∧ IsLine "repeated " ∧ IsLine " objects = 1;" ∧
      IsLine "string error_message = 2;" := by
    decide
  simp only [selectLines, List.forall_mem_append, List.forall_mem_singleton, heads, and_true]
  constructor
  · apply isLine_wireBlock
    · simp only [isLine_append, heads, names, and_self]
    · simp only [List.forall_mem_singleton, signs]
  · apply isLine_wireBlock
    · simp only [isLine_append, heads, names, and_self]
    · simp only [List.forall_mem_cons, List.not_mem_nil, false_implies, implies_true,
        isLine_append, names, signs, and_self]

theorem isLine_wireLines (targets : ∀ r ∈ t.relationships, IsLine r.field.targetType) :
    ∀ line ∈ t.wireLines, IsLine line := by
  have blank : IsLine "" := by decide
  simp only [wireLines, List.forall_mem_append, List.forall_mem_singleton, blank, true_and,
    and_true]
  exact ⟨isLine_messageLines type targets, isLine_selectLines type⟩

end TablePlan

/-! ## Lines of a schema -/

theorem Settings.isLine_preambleLines {s : Settings} (package : IsLine s.protoPackage) :
    ∀ line ∈ s.preambleLines, IsLine line := by
  have signs : IsLine "syntax = \"proto3\";" ∧ IsLine "" ∧ IsLine "package " ∧ IsLine "import " ∧
      IsLine ";" := by
    decide
  have imports : ∀ line ∈ s.importLines, IsLine line := by
    unfold importLines
    split
    · exact List.forall_mem_nil _
    · simp only [List.forall_mem_cons, List.forall_mem_map, isLine_append, signs, isLine_quote,
        and_self, implies_true]
  simp only [preambleLines, List.forall_mem_append, List.forall_mem_cons, List.not_mem_nil,
    false_implies, implies_true, isLine_append, signs, package, and_self, true_and]
  exact imports

/-- No line of a wire schema holds a line feed, whatever the comments and imports are. -/
theorem Plan.isLine_wireSchemaLines {p : Plan} {s : Settings} (valid : s.validate = .ok ())
    (types : ∀ t ∈ p.tables, IsLine t.typeName)
    (targets : ∀ t ∈ p.tables, ∀ r ∈ t.relationships, IsLine r.field.targetType) :
    ∀ line ∈ p.wireSchemaLines s, IsLine line := by
  obtain ⟨-, packages, service, -⟩ := Settings.validate_eq_ok.mp valid
  have package : IsLine s.protoPackage := isLine_of_pieces (by decide) fun piece cut feed =>
    absurd (isNameChar_of_mem (packages piece cut) _ feed) (by decide)
  have name : IsLine ("service " ++ s.serviceName) :=
    isLine_append.mpr ⟨by decide, isLine_of_isIdentifier service⟩
  have blank : IsLine "" := by decide
  rw [wireSchemaLines_eq, List.forall_mem_append]
  constructor
  · simp only [serviceLines, List.forall_mem_append, List.forall_mem_singleton, blank, and_true]
    refine ⟨Settings.isLine_preambleLines package, isLine_wireBlock name ?_⟩
    simp only [List.forall_mem_flatMap]
    exact fun t ht => TablePlan.isLine_rpcLines (types t ht)
  · simp only [List.forall_mem_flatMap]
    exact fun t ht => TablePlan.isLine_wireLines (types t ht) (targets t ht)

/-- Every table of the document has an identifier for its type. -/
def Document.TypesAreIdentifiers (d : Document) : Prop :=
  ∀ q ∈ d.placed, isIdentifier q.table.className.toList = true

theorem Document.typeNames_of_resolve {d : Document} {p : Plan} (h : d.resolve = .ok p)
    (named : d.TypesAreIdentifiers) :
    ∀ n ∈ p.tables.map TablePlan.typeName, isIdentifier n.toList = true := by
  have types := map_eq_map_of_forall₂ TablePlan.typeName (fun q => q.table.className)
    (fun _ _ => TablePlan.Mirrors.typeName) (Document.mirrors_of_resolve h)
  rw [types, List.forall_mem_map]
  exact named

/-- **A wire schema falls into the lines it is rendered from**, and the empty line behind the last
line feed. -/
theorem Document.lines_wireSchema {d : Document} {p : Plan} {s : Settings}
    (h : d.resolve = .ok p) (valid : s.validate = .ok ()) (named : d.TypesAreIdentifiers) :
    lines (p.artifacts s).wireSchema = marker :: "" :: p.wireSchemaLines s ++ [""] := by
  have identifiers := Document.typeNames_of_resolve h named
  have types : ∀ t ∈ p.tables, IsLine t.typeName := fun t ht =>
    isLine_of_isIdentifier (identifiers _ (List.mem_map_of_mem ht))
  have targets : ∀ t ∈ p.tables, ∀ r ∈ t.relationships, IsLine r.field.targetType :=
    fun t ht r hr => isLine_of_isIdentifier
      (identifiers _ ((Document.wellFormed_of_resolve h).target_mem t ht r hr))
  have header : IsLine marker ∧ IsLine "" := by decide
  have schema := Plan.isLine_wireSchemaLines valid types targets
  exact lines_textOfLines (List.forall_mem_cons.mpr
    ⟨header.1, List.forall_mem_cons.mpr ⟨header.2, schema⟩⟩)

end Tablecast
