import Tablecast.Artifact.Model
import Tablecast.Proofs.Plan.Structure
import Tablecast.Proofs.Text.Casing

/-!
# Fields that a conversion moves

A conversion of a table is made of assignments. Each is a line that names the field it assigns
behind a fixed head, and it names the field it reads behind another one, either in the assigned
expression or in the guard before it. Both are read off the lines here, whatever the names of
types between them are.

* `nameBehind?_ident`: the name behind a head,
* `Transfer.Moves`: the fields that lines assign and those that they read,
* `TablePlan.moves_encoderLines`, `TablePlan.moves_decoderLines`: the conversions of a table.
-/

namespace Tablecast

open Artifact Text

/-! ## Names behind a head -/

/-- What stands in no identifier of a field. -/
def endsIdent (c : Char) : Bool := [' ', ':', '.', ';', ')'].contains c

def IsIdent (s : String) : Prop := ∀ c ∈ s.toList, endsIdent c = false

instance (s : String) : Decidable (IsIdent s) := List.decidableBAll _ _

/-- The text begins with what stands in no identifier. -/
def EndsIdent (s : String) : Prop := s.toList.head?.any endsIdent = true

instance (s : String) : Decidable (EndsIdent s) := inferInstanceAs (Decidable (_ = _))

/-- The identifier behind a head, in a line that begins with the head. -/
def nameBehind? (head line : String) : Option String :=
  if head.toList <+: line.toList then
    some (.ofList ((line.toList.drop head.toList.length).takeWhile (!endsIdent ·)))
  else none

/-- The same with one of several heads. -/
def nameBehindAny? (heads : List String) (line : String) : Option String :=
  heads.findSome? (nameBehind? · line)

theorem EndsIdent.append {s : String} (h : EndsIdent s) (t : String) : EndsIdent (s ++ t) := by
  unfold EndsIdent at *
  rw [String.toList_append]
  cases same : s.toList with
  | nil =>
    rw [same] at h
    cases h
  | cons c rest =>
    rw [same] at h
    exact h

theorem nameBehind?_ident {head name rest : String} (ident : IsIdent name)
    (ends : EndsIdent rest) : nameBehind? head (head ++ (name ++ rest)) = some name := by
  have inside : ∀ c ∈ name.toList, (!endsIdent c) = true := by
    intro c hc
    rw [ident c hc]
    rfl
  have behind : rest.toList.takeWhile (!endsIdent ·) = [] := by
    unfold EndsIdent at ends
    cases same : rest.toList with
    | nil => rfl
    | cons c tail =>
      rw [same] at ends
      have stop : endsIdent c = true := ends
      rw [List.takeWhile_cons, stop]
      rfl
  unfold nameBehind?
  rw [String.toList_append, String.toList_append, if_pos (List.prefix_append _ _),
    List.drop_left, List.takeWhile_append_of_pos inside, behind, List.append_nil,
    String.ofList_toList]

/-- A declaration names what it declares between its head and a colon. -/
theorem nameBehind?_declaration {head name : String} (ident : IsIdent name) (rest : String) :
    nameBehind? head (head ++ name ++ ": " ++ rest) = some name := by
  have colon : EndsIdent ": " := by decide
  have line : head ++ name ++ ": " ++ rest = head ++ (name ++ (": " ++ rest)) := by
    simp only [String.append_assoc]
  rw [line]
  exact nameBehind?_ident ident (colon.append rest)

theorem nameBehind?_of_startsApart {head start : String} (apart : StartsApart head start)
    (rest : String) : nameBehind? head (start ++ rest) = none := by
  refine if_neg ?_
  rw [String.toList_append]
  intro begins
  rcases List.prefix_or_prefix_of_prefix begins (List.prefix_append _ _) with h | h
  · exact apart.1 h
  · exact apart.2 h

theorem nameBehind?_append (before head line : String) :
    nameBehind? (before ++ head) (before ++ line) = nameBehind? head line := by
  unfold nameBehind?
  simp only [String.toList_append, List.prefix_append_right_inj, List.length_append,
    ← List.drop_drop, List.drop_left]

theorem nameBehindAny?_append (before line : String) (heads : List String) :
    nameBehindAny? (heads.map (before ++ ·)) (before ++ line) = nameBehindAny? heads line := by
  simp only [nameBehindAny?, List.findSome?_map, Function.comp_def, nameBehind?_append]

theorem nameBehindAny?_ident {heads : List String} (apart : heads.Pairwise StartsApart)
    {head : String} (mem : head ∈ heads) {name rest : String} (ident : IsIdent name)
    (ends : EndsIdent rest) : nameBehindAny? heads (head ++ (name ++ rest)) = some name := by
  induction heads with
  | nil => cases mem
  | cons first heads ih =>
    obtain ⟨others, apart⟩ := List.pairwise_cons.mp apart
    rw [nameBehindAny?, List.findSome?_cons]
    rcases List.mem_cons.mp mem with rfl | later
    · rw [nameBehind?_ident ident ends]
    · rw [nameBehind?_of_startsApart (others head later)]
      exact ih apart later

theorem nameBehindAny?_of_startsApart {heads : List String} {start : String}
    (apart : ∀ head ∈ heads, StartsApart head start) (rest : String) :
    nameBehindAny? heads (start ++ rest) = none := by
  rw [nameBehindAny?, List.findSome?_eq_none_iff]
  intro head mem
  exact nameBehind?_of_startsApart (apart head mem) rest

theorem isIdent_field (fieldName : String) : IsIdent (Naming.field fieldName) := by
  intro c hc
  have known := mem_snakeCase hc
  rw [← Bool.not_eq_true, endsIdent, List.contains_iff_mem]
  intro stop
  simp only [List.mem_cons, List.not_mem_nil, or_false] at stop
  rcases stop with rfl | rfl | rfl | rfl | rfl <;> revert known <;> decide

/-- Escaping a name brings in nothing that ends it. -/
theorem isIdent_fieldIdent (fieldName : String) : IsIdent (fieldIdent fieldName) := by
  have name := isIdent_field fieldName
  have raw : IsIdent "r#" := by decide
  have underscore : IsIdent "_" := by decide
  intro c hc
  unfold fieldIdent at hc
  dsimp only at hc
  split at hc
  · rw [String.toList_append, List.mem_append] at hc
    exact hc.elim (name c) (underscore c)
  · split at hc
    · rw [String.toList_append, List.mem_append] at hc
      exact hc.elim (raw c) (name c)
    · exact name c hc

/-! ## Lines without their margin -/

/-- The line from its first character that is not a space. -/
def unindented (line : String) : String := .ofList (line.toList.dropWhile (· == ' '))

theorem unindented_margin (line : String) : unindented (margin ++ line) = unindented line := by
  have spaces : margin.toList = [' ', ' ', ' ', ' '] := by decide
  simp [unindented, spaces]

theorem unindented_eq {start : String} (solid : start.toList.head?.any (· != ' ') = true)
    (rest : String) : unindented (start ++ rest) = start ++ rest := by
  unfold unindented
  rw [← String.toList_inj, String.toList_ofList, String.toList_append]
  cases same : start.toList with
  | nil =>
    rw [same] at solid
    cases solid
  | cons c tail =>
    rw [same] at solid
    rw [List.cons_append, List.dropWhile_cons_of_neg (by simpa using solid)]

theorem map_unindented_indent (lines : List String) :
    (indent lines).map unindented = lines.map unindented := by
  rw [indent, List.map_map]
  apply List.map_congr_left
  intro line _
  rw [Function.comp_apply]
  split
  · next empty => rw [empty]
  · exact unindented_margin line

/-- What is read off the lines, each without its margin. -/
def readLines (f : String → Option String) (lines : List String) : List String :=
  lines.filterMap fun line => f (unindented line)

section ReadLines

variable (f : String → Option String)

theorem readLines_append (lines lines' : List String) :
    readLines f (lines ++ lines') = readLines f lines ++ readLines f lines' :=
  List.filterMap_append

theorem readLines_indent (lines : List String) :
    readLines f (indent lines) = readLines f lines := by
  have same := congrArg (List.filterMap f) (map_unindented_indent lines)
  rwa [List.filterMap_map, List.filterMap_map] at same

theorem readLines_block (head : String) (body : List String) :
    readLines f (block head body) =
      readLines f [head ++ " \x7b"] ++ readLines f body ++ readLines f ["\x7d"] := by
  have lines : block head body = [head ++ " \x7b"] ++ indent body ++ ["\x7d"] := rfl
  rw [lines, readLines_append, readLines_append, readLines_indent]

variable {f}

theorem readLines_singleton {start : String} (solid : start.toList.head?.any (· != ' ') = true)
    {rest : String} {found : Option String} (h : f (start ++ rest) = found) :
    readLines f [start ++ rest] = found.toList := by
  rw [readLines, List.filterMap_cons, unindented_eq solid, h]
  cases found <;> rfl

end ReadLines

/-! ## Assignments -/

/-- How a conversion names fields: what it assigns to, the guards that name a field before it is
read, and the expressions that name the field they read. -/
structure Transfer where
  target : String
  guards : List String
  sources : List String

namespace Transfer

variable (x : Transfer)

/-- The field that a line assigns. -/
def assigned? (line : String) : Option String := nameBehind? x.target line

/-- The field that a line reads. -/
def read? (line : String) : Option String :=
  nameBehindAny? x.guards line <|>
    (x.assigned? line).bind fun name =>
      nameBehindAny? (x.sources.map (x.target ++ name ++ " = " ++ ·)) line

/-- The fields that the lines assign and those that they read, in order. -/
structure Moves (lines written read : List String) : Prop where
  written : readLines x.assigned? lines = written
  read : readLines x.read? lines = read

/-- No head is taken for another one, for a margin or for what stands between assignments. -/
structure Clear : Prop where
  solid : ∀ head ∈ x.target :: x.guards, head.toList.head?.any (· != ' ') = true
  target : ∀ guard ∈ x.guards, StartsApart x.target guard ∧ StartsApart guard x.target
  guards : x.guards.Pairwise StartsApart
  sources : x.sources.Pairwise StartsApart
  brace : x.Moves ["\x7d"] [] []
  blank : x.Moves [""] [] []

variable {x} {lines lines' written written' read read' : List String}

theorem moves_nil : x.Moves [] [] [] := ⟨rfl, rfl⟩

theorem Moves.append (h : x.Moves lines written read) (h' : x.Moves lines' written' read') :
    x.Moves (lines ++ lines') (written ++ written') (read ++ read') := by
  constructor
  · rw [readLines_append, h.written, h'.written]
  · rw [readLines_append, h.read, h'.read]

theorem moves_flatMap {α : Type} {f : α → List String} {g : α → String} {l : List α}
    (h : ∀ a ∈ l, x.Moves (f a) [g a] [g a]) : x.Moves (l.flatMap f) (l.map g) (l.map g) := by
  induction l with
  | nil => exact moves_nil
  | cons a l ih =>
    obtain ⟨first, rest⟩ := List.forall_mem_cons.mp h
    exact first.append (ih rest)

theorem Moves.indent (h : x.Moves lines written read) : x.Moves (indent lines) written read := by
  constructor
  · rw [readLines_indent, h.written]
  · rw [readLines_indent, h.read]

/-- A line that begins with something else than the heads moves nothing. -/
theorem moves_other {start : String} (solid : start.toList.head?.any (· != ' ') = true)
    (apart : ∀ head ∈ x.target :: x.guards, StartsApart head start) (rest : String) :
    x.Moves [start ++ rest] [] [] := by
  obtain ⟨target, guards⟩ := List.forall_mem_cons.mp apart
  have assigned : x.assigned? (start ++ rest) = none := nameBehind?_of_startsApart target rest
  have read : x.read? (start ++ rest) = none := by
    rw [read?, nameBehindAny?_of_startsApart guards, assigned]
    rfl
  exact ⟨readLines_singleton solid assigned, readLines_singleton solid read⟩

theorem Moves.block (clear : x.Clear) {head : String} {body : List String}
    (opens : x.Moves [head ++ " \x7b"] written read) (inside : x.Moves body written' read') :
    x.Moves (block head body) (written ++ written') (read ++ read') := by
  have closed := (opens.append inside.indent).append clear.brace
  rwa [List.append_nil, List.append_nil] at closed

variable {name : String} (ident : IsIdent name)

include ident

theorem assigned?_target (rest : String) :
    x.assigned? (x.target ++ (name ++ (" = " ++ rest))) = some name := by
  have sign : EndsIdent " = " := by decide
  exact nameBehind?_ident ident (sign.append rest)

variable (clear : x.Clear)

include clear

/-- What an assignment reads is decided by the expression that is assigned. -/
theorem read?_target (rest : String) :
    x.read? (x.target ++ (name ++ (" = " ++ rest))) = nameBehindAny? x.sources rest := by
  have guards : ∀ guard ∈ x.guards, StartsApart guard x.target :=
    fun guard mem => (clear.target guard mem).2
  have line : x.target ++ (name ++ (" = " ++ rest)) = x.target ++ name ++ " = " ++ rest := by
    simp only [String.append_assoc]
  rw [read?, nameBehindAny?_of_startsApart guards, assigned?_target ident, line]
  exact nameBehindAny?_append _ _ _

/-- A guard reads a field. -/
theorem moves_guard {guard : String} (mem : guard ∈ x.guards) {rest : String}
    (ends : EndsIdent rest) : x.Moves [guard ++ (name ++ rest)] [] [name] := by
  have assigned : x.assigned? (guard ++ (name ++ rest)) = none :=
    nameBehind?_of_startsApart (clear.target guard mem).1 _
  have read : x.read? (guard ++ (name ++ rest)) = some name := by
    rw [read?, nameBehindAny?_ident clear.guards mem ident ends]
    rfl
  have solid := clear.solid guard (List.mem_cons_of_mem _ mem)
  exact ⟨readLines_singleton solid assigned, readLines_singleton solid read⟩

/-- An assignment of an expression that names the field it reads. -/
theorem moves_assignment {source : String} (mem : source ∈ x.sources) {rest : String}
    (ends : EndsIdent rest) :
    x.Moves [x.target ++ (name ++ (" = " ++ (source ++ (name ++ rest))))] [name] [name] := by
  have read := read?_target ident clear (source ++ (name ++ rest))
  rw [nameBehindAny?_ident clear.sources mem ident ends] at read
  have solid := clear.solid x.target List.mem_cons_self
  exact ⟨readLines_singleton solid (assigned?_target ident _), readLines_singleton solid read⟩

/-- An assignment of what a guard has found. -/
theorem moves_guarded {start : String} (apart : ∀ source ∈ x.sources, StartsApart source start)
    (rest : String) : x.Moves [x.target ++ (name ++ (" = " ++ (start ++ rest)))] [name] [] := by
  have read := read?_target ident clear (start ++ rest)
  rw [nameBehindAny?_of_startsApart apart] at read
  have solid := clear.solid x.target List.mem_cons_self
  exact ⟨readLines_singleton solid (assigned?_target ident _), readLines_singleton solid read⟩

end Transfer

/-! ## The conversions of a table -/

/-- A record to its message. -/
def toMessage : Transfer where
  target := "message."
  guards := ["if let Some(related) = self."]
  sources := ["self.", "i32::from(self.", "Some(support::decimal_to_wire(&self.",
    "Some(support::date_to_wire(&self.", "support::timestamp_to_wire(&self."]

/-- A message to its record. -/
def fromMessage : Transfer where
  target := "value."
  guards := ["if let Some(v) = message.", "let Some(v) = message."]
  sources := ["message.", "support::short_from_wire(message.",
    "support::timestamp_from_wire(message."]

theorem toMessage_target : toMessage.target = "message." := rfl

theorem fromMessage_target : fromMessage.target = "value." := rfl

theorem toMessage_clear : toMessage.Clear where
  solid := by decide
  target := by decide
  guards := by decide
  sources := by decide
  brace := ⟨by decide, by decide⟩
  blank := ⟨by decide, by decide⟩

theorem fromMessage_clear : fromMessage.Clear where
  solid := by decide
  target := by decide
  guards := by decide
  sources := by decide
  brace := ⟨by decide, by decide⟩
  blank := ⟨by decide, by decide⟩

theorem ColumnPlan.isIdent_ident (c : ColumnPlan) : IsIdent c.ident := isIdent_fieldIdent _

theorem RelationshipPlan.isIdent_ident (r : RelationshipPlan) : IsIdent r.ident :=
  isIdent_fieldIdent _

namespace ColumnPlan

variable (c : ColumnPlan)

/-- The carried form of a column names it behind one of the heads. -/
theorem carried_eq :
    ∃ source ∈ toMessage.sources, ∃ rest,
      EndsIdent (rest ++ ";") ∧ c.carried = source ++ (c.ident ++ rest) := by
  unfold carried
  cases c.conversion with
  | copy =>
    cases c.type.semantic.isPlain
    · exact ⟨"self.", by decide, ".clone()", by decide, by simp [String.append_assoc]⟩
    · exact ⟨"self.", by decide, "", by decide, by simp⟩
  | widen =>
    cases c.type.nullable
    · exact ⟨"i32::from(self.", by decide, ")", by decide, by simp [← String.append_assoc]⟩
    · exact ⟨"self.", by decide, ".map(i32::from)", by decide, by simp [String.append_assoc]⟩
  | composite kind =>
    cases c.type.nullable
    · cases kind
      · exact ⟨"Some(support::decimal_to_wire(&self.", by decide, "))", by decide,
          by simp [← String.append_assoc, CompositeKind.encoder]⟩
      · exact ⟨"Some(support::date_to_wire(&self.", by decide, "))", by decide,
          by simp [← String.append_assoc, CompositeKind.encoder]⟩
    · exact ⟨"self.", by decide, ".as_ref().map(support::" ++ kind.encoder ++ ")",
        by cases kind <;> decide, by simp [String.append_assoc]⟩
  | epochSeconds =>
    cases c.type.nullable
    · exact ⟨"support::timestamp_to_wire(&self.", by decide, ")", by decide,
        by simp [← String.append_assoc]⟩
    · exact ⟨"self.", by decide, ".as_ref().map(support::timestamp_to_wire)", by decide,
        by simp [String.append_assoc]⟩

theorem moves_encodeLine : toMessage.Moves [c.encodeLine] [c.ident] [c.ident] := by
  obtain ⟨source, mem, rest, ends, carried⟩ := c.carried_eq
  have moves := Transfer.moves_assignment c.isIdent_ident toMessage_clear mem ends
  have line : c.encodeLine =
      toMessage.target ++ (c.ident ++ (" = " ++ (source ++ (c.ident ++ (rest ++ ";"))))) := by
    simp only [encodeLine, carried, toMessage_target, String.append_assoc]
  rwa [line]

end ColumnPlan

theorem moves_guardedLines {name : String} (ident : IsIdent name) {start : String}
    (apart : ∀ source ∈ fromMessage.sources, StartsApart source start) (rest : String) :
    fromMessage.Moves (guarded name (start ++ rest)) [name] [name] := by
  have opens : fromMessage.Moves ["if let Some(v) = message." ++ (name ++ " \x7b")] [] [name] :=
    Transfer.moves_guard ident fromMessage_clear (by decide) (by decide)
  have assigns := Transfer.moves_guarded ident fromMessage_clear apart (rest ++ ";")
  have lines : guarded name (start ++ rest) = block ("if let Some(v) = message." ++ name)
      ["value." ++ (name ++ (" = " ++ (start ++ (rest ++ ";"))))] := by
    simp only [guarded, String.append_assoc]
  rw [lines]
  rw [← String.append_assoc] at opens
  exact opens.block fromMessage_clear assigns

namespace ColumnPlan

variable (c : ColumnPlan)

/-- A value that no guard has found is read behind one of the heads. -/
theorem uncarried_eq (single : ∀ kind, c.conversion ≠ .composite kind) :
    ∃ source ∈ fromMessage.sources, ∃ rest, EndsIdent (rest ++ ";") ∧
      c.uncarried ("message." ++ c.ident) = source ++ (c.ident ++ rest) := by
  unfold uncarried
  cases conversion : c.conversion with
  | copy => exact ⟨"message.", by decide, "", by decide, by simp⟩
  | widen =>
    exact ⟨"support::short_from_wire(message.", by decide, ")?", by decide,
      by simp [← String.append_assoc]⟩
  | composite kind => exact absurd conversion (single kind)
  | epochSeconds =>
    exact ⟨"support::timestamp_from_wire(message.", by decide, ")?", by decide,
      by simp [← String.append_assoc]⟩

/-- A composite column that may not be null is found by a guard that refuses to go on. -/
theorem moves_required (kind : CompositeKind) (field : String) :
    fromMessage.Moves
      (["let Some(v) = message." ++ c.ident ++ " else \x7b"] ++
        indent ["return Err(support::missing_field(" ++ field ++ "));"] ++
        ["\x7d;", "value." ++ c.ident ++ " = " ++ ("support::" ++ kind.decoder ++ "(&v)?") ++ ";"])
      [c.ident] [c.ident] := by
  have opens : fromMessage.Moves ["let Some(v) = message." ++ (c.ident ++ " else \x7b")]
      [] [c.ident] :=
    Transfer.moves_guard c.isIdent_ident fromMessage_clear (by decide) (by decide)
  have refuses : fromMessage.Moves ["return Err(support::missing_field(" ++ (field ++ "));")]
      [] [] :=
    Transfer.moves_other (by decide) (by decide) _
  have closes : fromMessage.Moves ["\x7d;"] [] [] := ⟨by decide, by decide⟩
  have apart : ∀ source ∈ fromMessage.sources,
      StartsApart source ("support::" ++ kind.decoder) := by
    cases kind <;> decide
  have assigns := Transfer.moves_guarded c.isIdent_ident fromMessage_clear apart ("(&v)?" ++ ";")
  have all := ((opens.append refuses.indent).append closes).append assigns
  simpa only [fromMessage_target, String.append_assoc, List.append_assoc, List.singleton_append,
    List.nil_append, List.append_nil, List.cons_append] using all

/-- A column is found by a guard or read where it is assigned. -/
theorem moves_decodeLines : fromMessage.Moves c.decodeLines [c.ident] [c.ident] := by
  unfold decodeLines
  cases c.type.nullable with
  | true =>
    have assigned : "Some(" ++ c.uncarried "v" ++ ")" = "Some(" ++ (c.uncarried "v" ++ ")") :=
      String.append_assoc
    rw [if_pos rfl, assigned]
    exact moves_guardedLines c.isIdent_ident (by decide) _
  | false =>
    rw [if_neg Bool.false_ne_true]
    split
    · next kind conversion =>
      have uncarried : c.uncarried "v" = "support::" ++ kind.decoder ++ "(&v)?" := by
        simp [ColumnPlan.uncarried, conversion, String.append_assoc]
      rw [uncarried]
      exact c.moves_required kind _
    · next single =>
      obtain ⟨source, mem, rest, ends, uncarried⟩ := c.uncarried_eq single
      have moves := Transfer.moves_assignment c.isIdent_ident fromMessage_clear mem ends
      rw [uncarried]
      simpa only [fromMessage_target, String.append_assoc] using moves

end ColumnPlan

namespace RelationshipPlan

variable (r : RelationshipPlan)

theorem moves_encodeLines : toMessage.Moves r.encodeLines [r.ident] [r.ident] := by
  have guard {rest : String} (ends : EndsIdent rest) :
      toMessage.Moves ["if let Some(related) = self." ++ (r.ident ++ rest)] [] [r.ident] :=
    Transfer.moves_guard r.isIdent_ident toMessage_clear (by decide) ends
  have opens : toMessage.Moves ["if let Some(related) = " ++ ("self." ++ r.ident ++
      if r.field.nullable then ".as_ref().and_then(Related::get)" else ".get()") ++ " \x7b"]
      [] [r.ident] := by
    have head : "if let Some(related) = self." = "if let Some(related) = " ++ "self." := by decide
    rw [head] at guard
    simp only [String.append_assoc] at guard ⊢
    cases r.field.nullable with
    | true => exact guard (by decide)
    | false => exact guard (by decide)
  have assigns : toMessage.Moves ["message." ++ r.ident ++ " = Some(" ++
      (if r.boxed then "Box::new(related.to_proto())" else "related.to_proto()") ++ ");"]
      [r.ident] [] := by
    have found (start rest : String) {nested : String}
        (same : "Some(" ++ (nested ++ ");") = start ++ rest)
        (apart : ∀ source ∈ toMessage.sources, StartsApart source start) :
        toMessage.Moves ["message." ++ r.ident ++ " = Some(" ++ nested ++ ");"] [r.ident] [] := by
      have sign : " = Some(" = " = " ++ "Some(" := by decide
      have moves := Transfer.moves_guarded r.isIdent_ident toMessage_clear apart rest
      rw [← same] at moves
      rw [sign, String.append_assoc, String.append_assoc, String.append_assoc, String.append_assoc]
      exact moves
    cases r.boxed with
    | true => exact found "Some(Box::new(" "related.to_proto()));" (by decide) (by decide)
    | false => exact found "Some(related" ".to_proto());" (by decide) (by decide)
  exact opens.block toMessage_clear assigns

theorem moves_decodeLines : fromMessage.Moves r.decodeLines [r.ident] [r.ident] := by
  unfold decodeLines
  dsimp only
  cases r.field.nullable with
  | true =>
    rw [if_pos rfl, String.append_assoc]
    exact moves_guardedLines r.isIdent_ident (by decide) _
  | false =>
    rw [if_neg Bool.false_ne_true, String.append_assoc, String.append_assoc, String.append_assoc]
    exact moves_guardedLines r.isIdent_ident (by decide) _

end RelationshipPlan

namespace TablePlan

variable (t : TablePlan)

/-- The identifiers of the fields in the order of their numbers. -/
def idents : List String :=
  t.columns.map ColumnPlan.ident ++ t.relationships.map RelationshipPlan.ident

/-- **A record moves each of its fields to the same field of the message**, in the order of the
plan. -/
theorem moves_encoderLines : toMessage.Moves t.encoderLines t.idents t.idents := by
  have other (start : String) (solid : start.toList.head?.any (· != ' ') = true)
      (apart : ∀ head ∈ toMessage.target :: toMessage.guards, StartsApart head start)
      (name finish : String) : toMessage.Moves [start ++ name ++ finish] [] [] := by
    rw [String.append_assoc]
    exact Transfer.moves_other solid apart _
  have type := other "impl " (by decide) (by decide) t.typeName " \x7b"
  have new : toMessage.Moves (block "pub fn new() -> Self" ["Self::default()"]) [] [] :=
    ⟨by decide, by decide⟩
  have method := other "pub fn to_proto(&self) -> " (by decide) (by decide)
    t.messageName " \x7b"
  have message := other "let mut message = " (by decide) (by decide)
    t.messageName "::default();"
  have columns : toMessage.Moves (t.columns.map ColumnPlan.encodeLine)
      (t.columns.map ColumnPlan.ident) (t.columns.map ColumnPlan.ident) := by
    rw [List.map_eq_flatMap]
    exact Transfer.moves_flatMap fun c _ => c.moves_encodeLine
  have relationships := Transfer.moves_flatMap fun r (_ : r ∈ t.relationships) =>
    r.moves_encodeLines
  have result : toMessage.Moves ["message"] [] [] := ⟨by decide, by decide⟩
  have body := ((message.append columns).append relationships).append result
  have methods := (new.append toMessage_clear.blank).append (method.block toMessage_clear body)
  have all := type.block toMessage_clear methods
  rw [encoderLines, idents]
  simpa only [List.nil_append, List.append_nil] using all

/-- **A record takes each of its fields from the same field of the message**, in the order of the
plan. -/
theorem moves_decoderLines : fromMessage.Moves t.decoderLines t.idents t.idents := by
  have other {start : String} (solid : start.toList.head?.any (· != ' ') = true)
      (apart : ∀ head ∈ fromMessage.target :: fromMessage.guards, StartsApart head start)
      (rest : String) : fromMessage.Moves [start ++ rest] [] [] :=
    Transfer.moves_other solid apart rest
  have type : fromMessage.Moves
      ["impl TryFrom<" ++ t.messageName ++ "> for " ++ t.typeName ++ " \x7b"] [] [] := by
    simp only [String.append_assoc]
    exact other (by decide) (by decide) _
  have error : fromMessage.Moves ["type Error = support::WireError;", ""] [] [] :=
    ⟨by decide, by decide⟩
  have method : fromMessage.Moves ["fn try_from(message: " ++ t.messageName ++
      ") -> Result<Self, Self::Error>" ++ " \x7b"] [] [] := by
    simp only [String.append_assoc]
    exact other (by decide) (by decide) _
  have new : fromMessage.Moves ["let mut value = Self::new();"] [] [] := ⟨by decide, by decide⟩
  have columns := Transfer.moves_flatMap fun c (_ : c ∈ t.columns) => c.moves_decodeLines
  have relationships := Transfer.moves_flatMap fun r (_ : r ∈ t.relationships) =>
    r.moves_decodeLines
  have result : fromMessage.Moves ["Ok(value)"] [] [] := ⟨by decide, by decide⟩
  have body := ((new.append columns).append relationships).append result
  have all := type.block fromMessage_clear (error.append (method.block fromMessage_clear body))
  rw [decoderLines, idents]
  simpa only [List.nil_append, List.append_nil] using all

end TablePlan

end Tablecast
