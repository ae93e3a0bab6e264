import Mathlib.Data.List.TakeWhile
import Tablecast.Proofs.Document.RoundTrip
import Tablecast.Proofs.Json.Edited

/-!
# Only known members of a document matter

A document is read from the known members of its structures. Wherever one of them is written as an
object, its members may stand in any order, and among others of any name and value.

* `Document.form`: where the structures stand in a document,
* `Document.respects`: the reader of documents, from the reader of each structure,
* `Document.parse_edited`: an edit of one object leaves the document as it was.
-/

namespace Tablecast

open Json

/-! ## The fields of each structure -/

def ForeignKey.fields : List (String × Form) :=
  [("from_column", .plain), ("to_class_name", .plain), ("field_name", .plain)]

def Column.fields : List (String × Form) :=
  [("name", .plain), ("field_name", .plain), ("database_type", .plain), ("nullable", .plain),
    ("default", .plain), ("comment", .plain)]

def Table.fields : List (String × Form) :=
  [("name", .plain), ("class_name", .plain), ("handle_name", .plain), ("comment", .plain),
    ("columns", .list (.record Column.fields)),
    ("foreign_keys", .list (.record ForeignKey.fields))]

def Schema.fields : List (String × Form) :=
  [("name", .plain), ("tables", .list (.record Table.fields))]

def Database.fields : List (String × Form) :=
  [("name", .plain), ("schemas", .list (.record Schema.fields))]

def Document.fields : List (String × Form) :=
  [("databases", .list (.record Database.fields))]

/-- A document and, within it, its databases, their schemas, the tables of these, and their columns
and foreign keys. -/
def Document.form : Form := .record Document.fields

/-! ## Structures, from the inside out -/

theorem respects_string : Respects .plain readString := settled_string.respects

theorem respects_optional : Respects .plain readOptional := settled_optional.respects

theorem respects_boolean : Respects .plain readBoolean := settled_boolean.respects

theorem ForeignKey.respects : ForeignKey.shape.Respects ForeignKey.fields where
  members := .cons (Member.fits_of respects_string) <| .cons (Member.fits_of respects_string) <|
    .cons (Member.fits_of respects_string) .nil
  distinct := by decide
  commutes := by simp [shape, Member.commutes_of]

theorem Column.respects : Column.shape.Respects Column.fields where
  members := .cons (Member.fits_of respects_string) <| .cons (Member.fits_of respects_string) <|
    .cons (Member.fits_of respects_string) <| .cons (Member.fits_of respects_boolean) <|
    .cons (Member.fits_of respects_optional) <| .cons (Member.fits_of respects_optional) .nil
  distinct := by decide
  commutes := by simp [shape, Member.commutes_of]

theorem Table.respects : Table.shape.Respects Table.fields where
  members := .cons (Member.fits_of respects_string) <| .cons (Member.fits_of respects_string) <|
    .cons (Member.fits_of respects_string) <| .cons (Member.fits_of respects_optional) <|
    .cons (Member.fits_of (respects_list Column.respects.read)) <|
    .cons (Member.fits_of (respects_list ForeignKey.respects.read)) .nil
  distinct := by decide
  commutes := by simp [shape, Member.commutes_of]

theorem Schema.respects : Schema.shape.Respects Schema.fields where
  members := .cons (Member.fits_of respects_string) <|
    .cons (Member.fits_of (respects_list Table.respects.read)) .nil
  distinct := by decide
  commutes := by simp [shape, Member.commutes_of]

theorem Database.respects : Database.shape.Respects Database.fields where
  members := .cons (Member.fits_of respects_string) <|
    .cons (Member.fits_of (respects_list Schema.respects.read)) .nil
  distinct := by decide
  commutes := by simp [shape, Member.commutes_of]

theorem Document.respects : Document.shape.Respects Document.fields where
  members := .cons (Member.fits_of (respects_list Database.respects.read)) .nil
  distinct := by decide
  commutes := List.pairwise_singleton _ _

/-! ## Whole texts -/

namespace Document

/-- An accepted text lays out a node that is read as the document. -/
theorem reads_of_parse {text : String} {d : Document} (h : parse text = .ok d) :
    ∃ n : Node, n.Layout text.toList ∧ Reads shape.read n d := by
  obtain ⟨rest, read, blanks⟩ := parse_eq_ok.mp h
  obtain ⟨before, n, text', before', written, split, reads⟩ := respects.read.settled read
  exact ⟨n, ⟨before, text', rest, before', written, blanks, split⟩, reads⟩

/-- **Only known members matter.** An accepted text is a layout of a node. Where that node holds a
structure as an object, the members of the object may be put into any order and among any number of
members with names that the structure does not have, whatever values these have: every layout of the
result is accepted and holds the same document. -/
theorem parse_edited {text : String} {d : Document} (accepted : parse text = .ok d) :
    (∃ n : Node, n.Layout text.toList) ∧
    ∀ (n n' : Node) (text' : String), n.Layout text.toList → Edited form n n' →
      n'.Layout text'.toList → parse text' = .ok d := by
  obtain ⟨n, layout, reads⟩ := reads_of_parse accepted
  refine ⟨⟨n, layout⟩, fun m n' text' same edited layout' => ?_⟩
  obtain rfl := same.unique layout
  exact parse_of_reads (respects.read.keeps edited layout.writable layout'.writable reads) layout'

/-- A document with one database. -/
def databaseNode (database : Node) : Node :=
  .object [("databases".toList, .list [database])]

def plainDatabase : Node :=
  .object [("name".toList, .string "ORCL".toList), ("schemas".toList, .list [])]

/-- Members that nothing reads: behind a key with an escape, a number beyond any range within
brackets, and half a surrogate pair. -/
def foreignMembers : List (List Char × Node) :=
  [("\\u0078".toList, .list [.object [("a".toList, .number "-1e999".toList)]]),
    ("Name".toList, .string "\\ud800".toList)]

/-- The members of the plain database in another order with the foreign ones between them. -/
def crowdedDatabase : Node :=
  .object (("schemas".toList, .list []) ::
    (foreignMembers ++ [("name".toList, .string "ORCL".toList)]))

def plainText : String := "\x7b\"databases\":[\x7b\"name\":\"ORCL\",\"schemas\":[]\x7d]\x7d"

def crowdedText : String :=
  "\x7b\"databases\":[\x7b\"schemas\":[],\"\\u0078\":[\x7b\"a\":-1e999\x7d]," ++
    "\"Name\":\"\\ud800\",\"name\":\"ORCL\"\x7d]\x7d"

theorem databaseNode_layout {database : Node} {text s : List Char} (h : database.Written text)
    (split : s = "\x7b\"databases\":[".toList ++ (text ++ "]\x7d".toList)) :
    (databaseNode database).Layout s := by
  have lead : Lead true [] := .first blanks_nil
  have databases : StringBody "databases".toList := (spells_self rfl).body
  have items := Node.WrittenItems.item lead h (.close blanks_nil)
  have written := Node.Written.object
    (.member lead databases blanks_nil blanks_nil (.list items) (.close blanks_nil))
  refine ⟨[], _, [], blanks_nil, written, blanks_nil, ?_⟩
  simp [split, quoted]

theorem plainDatabase_layout : (databaseNode plainDatabase).Layout plainText.toList := by
  have lead : Lead true [] := .first blanks_nil
  have comma : Lead false ([] ++ [',']) := .next blanks_nil blanks_nil
  have name : StringBody "name".toList := (spells_self rfl).body
  have orcl : StringBody "ORCL".toList := (spells_self rfl).body
  have schemas : StringBody "schemas".toList := (spells_self rfl).body
  have members := Node.WrittenMembers.member lead name blanks_nil blanks_nil (.string orcl) <|
    .member comma schemas blanks_nil blanks_nil (.list (.close blanks_nil)) (.close blanks_nil)
  exact databaseNode_layout (.object members) (by decide +kernel)

theorem crowdedDatabase_layout : (databaseNode crowdedDatabase).Layout crowdedText.toList := by
  have lead : Lead true [] := .first blanks_nil
  have comma : Lead false ([] ++ [',']) := .next blanks_nil blanks_nil
  have schemas : StringBody "schemas".toList := (spells_self rfl).body
  have x : StringBody "\\u0078".toList := .codeUnit (.digits rfl rfl rfl rfl) .nil
  have a : StringBody "a".toList := (spells_self rfl).body
  have nines : Digits ['9', '9'] :=
    List.forall_mem_cons.mpr ⟨rfl, List.forall_mem_singleton.mpr rfl⟩
  have one : Whole ['1'] := .digits (by decide) (by decide) (List.forall_mem_nil _)
  have huge : NumberText "-1e999".toList :=
    .negative one .none (.unsigned (.inl rfl) (by decide) nines)
  have otherName : StringBody "Name".toList := (spells_self rfl).body
  have half : StringBody "\\ud800".toList := .codeUnit (.digits rfl rfl rfl rfl) .nil
  have name : StringBody "name".toList := (spells_self rfl).body
  have orcl : StringBody "ORCL".toList := (spells_self rfl).body
  have inner := Node.Written.object
    (.member lead a blanks_nil blanks_nil (.number huge) (.close blanks_nil))
  have members := Node.WrittenMembers.member lead schemas blanks_nil blanks_nil
      (.list (.close blanks_nil)) <|
    .member comma x blanks_nil blanks_nil (.list (.item lead inner (.close blanks_nil))) <|
    .member comma otherName blanks_nil blanks_nil (.string half) <|
    .member comma name blanks_nil blanks_nil (.string orcl) (.close blanks_nil)
  exact databaseNode_layout (.object members) (by decide +kernel)

/-- The plain database has been edited into the crowded one. -/
theorem crowdedDatabase_edited :
    Edited form (databaseNode plainDatabase) (databaseNode crowdedDatabase) := by
  have databases : Spells "databases".toList "databases".toList := spells_self rfl
  have unit : CodeUnit ['0', '0', '7', '8'] 0x78 :=
    .digits (i := 0) (j := 0) (k := 7) (l := 8) rfl rfl rfl rfl
  have x : Spells "\\u0078".toList "x".toList := .codeUnit unit (by decide) .nil
  have otherName : Spells "Name".toList "Name".toList := spells_self rfl
  have foreign : ∀ e ∈ foreignMembers, Foreign Database.fields e.1 := by
    rw [foreignMembers, List.forall_mem_cons, List.forall_mem_singleton]
    exact ⟨⟨_, x, by decide⟩, ⟨_, otherName, by decide⟩⟩
  have order : List.Perm _ _ := (List.perm_append_singleton
    ("name".toList, Node.string "ORCL".toList)
    (("schemas".toList, .list []) :: foreignMembers)).symm
  have database : Edited (.record Database.fields) plainDatabase crowdedDatabase :=
    .members foreign order
  have element : Edited (.list (.record Database.fields)) (.list ([] ++ [plainDatabase]))
      (.list ([] ++ [crowdedDatabase])) := .element database
  exact @Edited.member _ _ _ _ [] [] _ _ List.mem_cons_self databases element

theorem crowdedDocument_parses :
    parse plainText = .ok ⟨[⟨"ORCL", []⟩]⟩ ∧
      (databaseNode plainDatabase).Layout plainText.toList ∧
      Edited form (databaseNode plainDatabase) (databaseNode crowdedDatabase) ∧
      (databaseNode crowdedDatabase).Layout crowdedText.toList ∧
      parse crowdedText = .ok ⟨[⟨"ORCL", []⟩]⟩ := by
  have accepted : parse plainText = .ok ⟨[⟨"ORCL", []⟩]⟩ := rfl
  exact ⟨accepted, plainDatabase_layout, crowdedDatabase_edited, crowdedDatabase_layout,
    (parse_edited accepted).2 _ _ _ plainDatabase_layout crowdedDatabase_edited
      crowdedDatabase_layout⟩

end Document

end Tablecast
