import Tablecast.Document.Printer
import Tablecast.Document.Reader
import Tablecast.Proofs.Json.Printed

/-!
# Documents survive their JSON form

The JSON form of a document is an object with every member in order, and so are the structures in
it, so each of them is read member by member, from the texts up to the databases.

* `Document.parse_of_reads`: what is read from a node is parsed from every text that holds it,
* `Document.parse_printed`: a document from its compact and from its pretty form.
-/

namespace Tablecast

open Json

theorem reads_optionalTree (o : Option String) : Reads readOptional (optionalTree o).node o := by
  cases o with
  | none => exact reads_null
  | some s => exact reads_someText s

/-! ## Structures, from the inside out -/

theorem ForeignKey.reads (k : ForeignKey) : Reads ForeignKey.shape.read k.tree.node k := by
  apply Shape.reads_object (by decide) rfl
  exact .of (reads_text k.fromColumn) <| .of (reads_text k.toClassName) <|
    .of (reads_text k.fieldName) .nil

theorem Column.reads (c : Column) : Reads Column.shape.read c.tree.node c := by
  apply Shape.reads_object (by decide) rfl
  exact .of (reads_text c.name) <| .of (reads_text c.fieldName) <|
    .of (reads_text c.databaseType) <| .of (reads_boolean c.nullable) <|
    .of (reads_optionalTree c.defaultValue) <| .of (reads_optionalTree c.comment) .nil

theorem Table.reads (t : Table) : Reads Table.shape.read t.tree.node t := by
  apply Shape.reads_object (by decide) rfl
  exact .of (reads_text t.name) <| .of (reads_text t.className) <|
    .of (reads_text t.handleName) <| .of (reads_optionalTree t.comment) <|
    .of (reads_items Column.reads t.columns) <|
    .of (reads_items ForeignKey.reads t.foreignKeys) .nil

theorem Schema.reads (s : Schema) : Reads Schema.shape.read s.tree.node s := by
  apply Shape.reads_object (by decide) rfl
  exact .of (reads_text s.name) <| .of (reads_items Table.reads s.tables) .nil

theorem Database.reads (d : Database) : Reads Database.shape.read d.tree.node d := by
  apply Shape.reads_object (by decide) rfl
  exact .of (reads_text d.name) <| .of (reads_items Schema.reads d.schemas) .nil

theorem Document.reads (d : Document) : Reads Document.shape.read d.tree.node d := by
  apply Shape.reads_object (by decide) rfl
  exact .of (reads_items Database.reads d.databases) .nil

/-! ## Whole texts -/

namespace Document

theorem parse_eq_ok {text : String} {d : Document} :
    parse text = .ok d ↔ ∃ rest, shape.read text.toList = .ok (d, rest) ∧ Blanks rest := by
  rw [parse, Shape.readAll, bind_eq_ok, Prod.exists]
  constructor
  · rintro ⟨x, rest, read, done⟩
    dsimp only at done
    split_ifs at done with blanks
    obtain rfl := pure_eq_ok.mp done
    exact ⟨rest, read, skipBlanks_isEmpty_iff.mp blanks⟩
  · rintro ⟨rest, read, blanks⟩
    have nothing := skipBlanks_isEmpty_iff.mpr blanks
    exact ⟨d, rest, read, if_pos nothing⟩

theorem parse_of_reads {n : Node} {text : String} {d : Document} (reads : Reads shape.read n d)
    (layout : n.Layout text.toList) : parse text = .ok d := by
  obtain ⟨before, text', after, before', written, after', split⟩ := layout
  exact parse_eq_ok.mpr ⟨after, by rw [split]; exact reads before' written after, after'⟩

/-- **Documents survive their JSON form.** Any document parses from its compact form and from its
pretty form, whatever its texts are. -/
theorem parse_printed (d : Document) :
    parse d.compact = .ok d ∧ parse d.pretty = .ok d := by
  have printed {text : List Char} (written : d.tree.node.Written text) :
      parse (.ofList text) = .ok d := by
    have layout := written.layout
    rw [List.nil_append, List.append_nil] at layout
    apply parse_of_reads d.reads
    rwa [String.toList_ofList]
  exact ⟨printed d.tree.written_compact, printed (d.tree.written_pretty 0)⟩

end Document

end Tablecast
