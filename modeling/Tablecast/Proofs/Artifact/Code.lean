import Tablecast.Proofs.Artifact.WireText
import Tablecast.Proofs.Plan.Erasure

/-!
# The code in an artifact

What is left of a text without the lines that are comments. A comment of the document is rendered as
lines that are comments as a whole, so it leaves no trace in the code, whatever it says.

* `codeLines_textOfLines`: the code of a text, rendered line by rendered line,
* `codeOf_commentLines`: a comment holds no code,
* `Document.comments_hold_no_code`: artifacts of documents that differ in their comments only.
-/

namespace Tablecast

open Artifact Text

/-- The lines of a text that are no comments. -/
def codeLines (text : String) : List String := (lines text).filter (!isComment ·)

/-- The code in rendered lines. One that holds line feeds breaks into several. -/
def codeOf (rendered : List String) : List String := rendered.flatMap codeLines

/-! ## The code of a text -/

theorem codeLines_textOfLines (first : String) (rest : List String) :
    codeLines (textOfLines (first :: rest)) = codeOf (first :: rest) ++ [""] := by
  have blank : isComment "" = false := by decide
  rw [codeLines, lines_textOfLines_flatMap, List.filter_append, List.filter_flatMap,
    List.filter_singleton, blank]
  rfl

@[simp] theorem codeOf_nil : codeOf [] = [] := rfl

@[simp] theorem codeOf_cons (line : String) (rest : List String) :
    codeOf (line :: rest) = codeLines line ++ codeOf rest := rfl

@[simp] theorem codeOf_append (first second : List String) :
    codeOf (first ++ second) = codeOf first ++ codeOf second := List.flatMap_append

@[simp] theorem codeOf_flatMap {α : Type} (f : α → List String) (l : List α) :
    codeOf (l.flatMap f) = l.flatMap fun x => codeOf (f x) := List.flatMap_assoc

/-! ## Comments -/

/-- Two characters behind the blanks settle whether a line is a comment. -/
theorem isComment_append_eq {start : String} (settled : 2 ≤ (trimStart start.toList).length)
    (rest : String) : isComment (start ++ rest) = isComment start := by
  have solid : trimStart start.toList ≠ [] := by
    intro nothing
    rw [nothing] at settled
    exact absurd settled (by decide)
  have kept : trimStart (start ++ rest).toList = trimStart start.toList ++ rest.toList := by
    rw [String.toList_append, trimStart, List.dropWhile_append, if_neg]
    · rfl
    · rwa [List.isEmpty_iff]
  rw [isComment, isComment, kept, Bool.eq_iff_iff, List.isPrefixOf_iff_prefix,
    List.isPrefixOf_iff_prefix]
  constructor
  · intro whole
    exact List.prefix_of_prefix_length_le whole (List.prefix_append _ _) settled
  · intro begins
    exact begins.trans (List.prefix_append _ _)

theorem isComment_append {start : String} (h : isComment start = true) (rest : String) :
    isComment (start ++ rest) = true := by
  have begins := h
  rw [isComment, List.isPrefixOf_iff_prefix] at begins
  rw [isComment_append_eq begins.length_le, h]

theorem codeLines_of_isComment {line : String} (single : IsLine line)
    (comment : isComment line = true) : codeLines line = [] := by
  rw [codeLines, lines_of_isLine single, List.filter_singleton, comment]
  rfl

section

variable {mark : String} (solid : trimEnd mark.toList = mark.toList) (single : IsLine mark)
  (marks : isComment mark = true)

include solid single marks

theorem isComment_of_mem_commentLines (comment : Option String) :
    ∀ line ∈ commentLines comment mark, isComment line = true := by
  intro line h
  obtain ⟨-, rest, rfl⟩ := mem_commentLines solid single h
  exact isComment_append marks rest

theorem filter_commentLines (comment : Option String) :
    (commentLines comment mark).filter (!isComment ·) = [] := by
  rw [List.filter_eq_nil_iff]
  intro line h
  rw [isComment_of_mem_commentLines solid single marks comment line h]
  decide

/-- Every line of a comment stands behind the mark and ends before the next line feed. -/
theorem codeOf_commentLines (comment : Option String) :
    codeOf (commentLines comment mark) = [] := by
  rw [codeOf, List.flatMap_eq_nil_iff]
  intro line h
  exact codeLines_of_isComment (mem_commentLines solid single h).1
    (isComment_of_mem_commentLines solid single marks comment line h)

end

theorem codeOf_documentation (comment : Option String) :
    codeOf (commentLines comment "///") = [] :=
  codeOf_commentLines (by decide) (by decide) (by decide) comment

/-! ## Tables without comments -/

theorem ColumnPlan.codeOf_fieldLines (c : ColumnPlan) :
    codeOf c.withoutComment.fieldLines = codeOf c.fieldLines := by
  have silent (comment : Option String) : codeOf (commentLines comment (margin ++ "///")) = [] :=
    codeOf_commentLines (by decide) (by decide) (by decide) comment
  simp only [fieldLines, codeOf_append, silent]
  rfl

theorem ColumnPlan.codeOf_messageLines (c : ColumnPlan) :
    codeOf c.withoutComment.messageLines = codeOf c.messageLines := by
  have silent (comment : Option String) : codeOf (commentLines comment (wireMargin ++ "//")) = [] :=
    codeOf_commentLines (by decide) (by decide) (by decide) comment
  simp only [messageLines, codeOf_append, silent]
  rfl

namespace TablePlan

variable (t : TablePlan)

theorem codeOf_recordLines : codeOf t.withoutComments.recordLines = codeOf t.recordLines := by
  simp only [recordLines, withoutComments, codeOf_append, codeOf_flatMap, codeOf_documentation,
    List.flatMap_map, ColumnPlan.codeOf_fieldLines]

theorem encoderLines_withoutComments : t.withoutComments.encoderLines = t.encoderLines := by
  have columns : t.withoutComments.columns.map ColumnPlan.encodeLine =
      t.columns.map ColumnPlan.encodeLine := List.map_map
  simp only [encoderLines, columns]
  rfl

theorem decoderLines_withoutComments : t.withoutComments.decoderLines = t.decoderLines := by
  have columns : t.withoutComments.columns.flatMap ColumnPlan.decodeLines =
      t.columns.flatMap ColumnPlan.decodeLines := List.flatMap_map _ _ _
  simp only [decoderLines, columns]
  rfl

theorem accessorLines_withoutComments : t.withoutComments.accessorLines = t.accessorLines := by
  have columns : t.withoutComments.columns.map namePair = t.columns.map namePair := List.map_map
  have generated : t.withoutComments.generatedColumns.map (fun c => quote c.storageName) =
      t.generatedColumns.map fun c => quote c.storageName := by
    simp only [generatedColumns, withoutComments, List.filter_map, List.map_map]
    rfl
  simp only [accessorLines, columns, generated]
  rfl

theorem codeOf_modelLines : codeOf t.withoutComments.modelLines = codeOf t.modelLines := by
  simp only [modelLines, codeOf_append, codeOf_recordLines, encoderLines_withoutComments,
    decoderLines_withoutComments, accessorLines_withoutComments]

theorem codeOf_constantLines : codeOf t.withoutComments.constantLines = codeOf t.constantLines := by
  simp only [constantLines, codeOf_append, codeOf_documentation]
  rfl

theorem codeOf_wireLines : codeOf t.withoutComments.wireLines = codeOf t.wireLines := by
  have silent (comment : Option String) : codeOf (commentLines comment "//") = [] :=
    codeOf_commentLines (by decide) (by decide) (by decide) comment
  have message : codeOf t.withoutComments.messageLines = codeOf t.messageLines := by
    simp only [messageLines, codeOf_append, silent, withoutComments, codeOf_flatMap,
      List.flatMap_map, ColumnPlan.codeOf_messageLines]
    rfl
  simp only [wireLines, codeOf_append, message]
  rfl

end TablePlan

/-! ## Artifacts without comments -/

theorem Plan.codeOf_modelLines (p : Plan) (s : Settings) :
    codeOf ((p.map TablePlan.withoutComments).modelLines s) = codeOf (p.modelLines s) := by
  have entries : (p.tables.map TablePlan.withoutComments).map TablePlan.registryEntry =
      p.tables.map TablePlan.registryEntry := List.map_map
  simp only [modelLines, registryLines, map, codeOf_append, codeOf_flatMap, codeOf_cons,
    List.flatMap_map, TablePlan.codeOf_constantLines, TablePlan.codeOf_modelLines, entries]

theorem Plan.codeOf_wireSchemaLines (p : Plan) (s : Settings) :
    codeOf ((p.map TablePlan.withoutComments).wireSchemaLines s) =
      codeOf (p.wireSchemaLines s) := by
  have service : (p.map TablePlan.withoutComments).serviceLines s = p.serviceLines s := by
    simp only [serviceLines, map, List.flatMap_map]
    rfl
  rw [wireSchemaLines_eq, wireSchemaLines_eq, service]
  simp only [map, codeOf_append, codeOf_flatMap, List.flatMap_map, TablePlan.codeOf_wireLines]

theorem Plan.codeLines_artifacts (p : Plan) (s : Settings) :
    codeLines (p.artifacts s).model = codeOf (p.modelLines s) ++ [""] ∧
      codeLines (p.artifacts s).wireSchema =
        codeOf ([marker, ""] ++ p.wireSchemaLines s) ++ [""] :=
  ⟨codeLines_textOfLines _ _, codeLines_textOfLines _ _⟩

/-- **Comments hold no code.** Two accepted documents that differ in the comments of their tables
and columns only are rendered to the same code by any settings that pass, in the model as well as
in the wire schema. -/
theorem Document.comments_hold_no_code {d e : Document} {p q : Plan} {s : Settings}
    (h : d.resolve = .ok p) (h' : e.resolve = .ok q) (valid : s.validate = .ok ())
    (same : d.withoutComments = e.withoutComments) :
    ∃ a b, d.render s = .ok a ∧ e.render s = .ok b ∧ codeLines a.model = codeLines b.model ∧
      codeLines a.wireSchema = codeLines b.wireSchema := by
  have plans := Document.plans_agree_without_comments h h' same
  refine ⟨p.artifacts s, q.artifacts s, Document.render_eq_ok.mpr ⟨valid, p, h, rfl⟩,
    Document.render_eq_ok.mpr ⟨valid, q, h', rfl⟩, ?_, ?_⟩
  · have code : codeOf (p.modelLines s) = codeOf (q.modelLines s) := by
      rw [← p.codeOf_modelLines, ← q.codeOf_modelLines, plans]
    rw [(p.codeLines_artifacts s).1, (q.codeLines_artifacts s).1, code]
  · have code : codeOf (p.wireSchemaLines s) = codeOf (q.wireSchemaLines s) := by
      rw [← p.codeOf_wireSchemaLines, ← q.codeOf_wireSchemaLines, plans]
    rw [(p.codeLines_artifacts s).2, (q.codeLines_artifacts s).2, codeOf_append, codeOf_append,
      code]

/-- The comments of the forged region try to open and close messages. -/
theorem forgedDocument_code :
    forgedDocument.withoutComments ≠ forgedDocument ∧
    ∃ a b, forgedDocument.render forgedSettings = .ok a ∧
      forgedDocument.withoutComments.render forgedSettings = .ok b ∧
      codeLines a.model = codeLines b.model ∧ codeLines a.wireSchema = codeLines b.wireSchema := by
  have accepted : forgedDocument.resolve.toOption.isSome := by decide +kernel
  have accepted' : forgedDocument.withoutComments.resolve.toOption.isSome := by decide +kernel
  obtain ⟨p, resolved⟩ := Option.isSome_iff_exists.mp accepted
  obtain ⟨q, resolved'⟩ := Option.isSome_iff_exists.mp accepted'
  have valid : forgedSettings.validate = .ok () := by decide +kernel
  exact ⟨by decide, Document.comments_hold_no_code (toOption_eq_some.mp resolved)
    (toOption_eq_some.mp resolved') valid (by decide)⟩

end Tablecast
