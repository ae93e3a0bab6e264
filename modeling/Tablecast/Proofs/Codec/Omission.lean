import Mathlib.Logic.Relation
import Tablecast.Proofs.Codec.Stability

/-!
# What a decoder does not see

A writer may leave out a field without presence whose value is zero, and a message may bear fields
and messages under numbers that its table does not declare. Neither makes a difference to what is
decoded, nor to the error if nothing is.

* `Message.decode_congr`: a message is decoded by what is found under declared numbers;
* `ColumnPlan.decode_zero`: a zero is decoded as if it were left out;
* `Message.Edit.decode_eq`, `Document.decode_edited`: one edit, and any number of them.
-/

namespace Tablecast

open Calendar Numeric

variable {p : Plan} {m m' : Message}

/-! ## Declared numbers -/

/-- A message is decoded by its name, by what its table's columns make of their fields, and by what
the messages under its table's relationships are decoded to. -/
theorem Message.decode_congr (name : m'.name = m.name)
    (field : ∀ t, p.carried? m.name = some t → ∀ c ∈ t.columns,
      c.decode (m'.fields.lookup c.tag) = c.decode (m.fields.lookup c.tag))
    (nested : ∀ t, p.carried? m.name = some t → ∀ q ∈ t.relationships,
      (m'.messages.lookup q.tag).map (Message.decode p) =
        (m.messages.lookup q.tag).map (Message.decode p)) :
    m'.decode p = m.decode p := by
  obtain ⟨_, fields, messages⟩ := m
  obtain ⟨_, fields', messages'⟩ := m'
  cases name
  rw [decode, decode]
  cases carried : p.carried? _ with
  | none => rfl
  | some t =>
    have values : decodeFields fields' t.columns = decodeFields fields t.columns := by
      refine Keyed.collect_congr fun c hc => ?_
      rw [field t carried c hc]
    have related : decodeRelationships (decodeNested p messages') t.relationships =
        decodeRelationships (decodeNested p messages) t.relationships := by
      refine Keyed.collect_congr fun q hq => ?_
      rw [lookup_decodeNested, lookup_decodeNested, nested t carried q hq]
    simp only [values, related]

/-! ## Zeros -/

/-- The value that proto3 leaves out. -/
def ScalarKind.zero : ScalarKind → WireValue
  | .int32 => .int32 0
  | .int64 => .int64 0
  | .float => .float ⟨0⟩
  | .double => .double ⟨0⟩
  | .string => .string ""
  | .bytes => .bytes []

namespace ColumnPlan

variable {c : ColumnPlan} {kind : ScalarKind}

theorem carrier_of_scalar (wire : c.wire = c.type.wire) (implicit : c.wire = .scalar kind) :
    c.type.semantic.carrier = .inl kind := by
  rw [← FieldType.kind_wire, ← wire, implicit, WireType.kind]

theorem timestampOfSeconds?_zero : timestampOfSeconds? ⟨0⟩ = some .epoch := by
  decide +kernel

/-- The zero of the carrier is read as the zero of the family. -/
theorem uncarry_zero (carrier : c.type.semantic.carrier = .inl kind) :
    c.uncarry kind.zero = .ok c.type.semantic.zero := by
  cases family : c.type.semantic <;> rw [family] at carrier <;> cases carrier
  case timestamp =>
    simp only [uncarry, family, ScalarKind.zero, timestampOfSeconds?_zero, Semantic.zero]
  all_goals simp [uncarry, family, ScalarKind.zero, Semantic.zero]

/-- **A zero is decoded as if it were left out.** -/
theorem decode_zero (wire : c.wire = c.type.wire) (implicit : c.wire = .scalar kind) :
    c.decode (some kind.zero) = c.decode none := by
  have read := decode_some.mpr (uncarry_zero (carrier_of_scalar wire implicit))
  rw [read, decode, absent, implicit]
  rfl

end ColumnPlan

/-! ## Edits -/

/-- The number is that of no column of the message's table. -/
def Message.ForeignField (p : Plan) (m : Message) (tag : Nat) : Prop :=
  ∀ t, p.carried? m.name = some t → tag ∉ t.columns.map ColumnPlan.tag

/-- The number is that of no relationship of the message's table. -/
def Message.ForeignMessage (p : Plan) (m : Message) (tag : Nat) : Prop :=
  ∀ t, p.carried? m.name = some t → tag ∉ t.relationships.map RelationshipPlan.tag

/-- One zero is left out, or one field or message that the table does not declare is put in or
taken out, in the message or at any depth in it. -/
inductive Message.Edit (p : Plan) : Message → Message → Prop
  | omitZero {m : Message} {t : TablePlan} {c : ColumnPlan} {kind : ScalarKind}
      (table : p.carried? m.name = some t) (column : c ∈ t.columns)
      (implicit : c.wire = .scalar kind) (zero : m.fields.lookup c.tag = some kind.zero) :
      Edit p m (m.withoutField c.tag)
  | putField {m : Message} {tag : Nat} (foreign : m.ForeignField p tag) (w : WireValue) :
      Edit p m (m.withField tag w)
  | dropField {m : Message} {tag : Nat} (foreign : m.ForeignField p tag) :
      Edit p m (m.withoutField tag)
  | putMessage {m : Message} {tag : Nat} (foreign : m.ForeignMessage p tag) (n : Message) :
      Edit p m (m.withMessage tag n)
  | dropMessage {m : Message} {tag : Nat} (foreign : m.ForeignMessage p tag) :
      Edit p m (m.withoutMessage tag)
  | inside {m n n' : Message} {tag : Nat} (nested : m.messages.lookup tag = some n)
      (edit : Edit p n n') : Edit p m (m.withMessage tag n')

/-- **An edit is not seen.** -/
theorem Message.Edit.decode_eq (wellFormed : p.WellFormed) (edit : m.Edit p m') :
    m'.decode p = m.decode p := by
  induction edit with
  | @omitZero m t c kind table column implicit zero =>
    have shape := wellFormed.tables t (List.mem_of_find?_eq_some table)
    have unique := (List.nodup_append.mp shape.tags_nodup).1
    refine decode_congr rfl (fun u carried d hd => ?_) fun _ _ _ _ => rfl
    obtain rfl := Option.some.inj (table.symm.trans carried)
    rw [withoutField, Keyed.lookup_erase]
    split
    next same =>
      obtain rfl := List.inj_on_of_nodup_map unique hd column same
      rw [zero, ColumnPlan.decode_zero (shape.conversions d hd).1 implicit]
    next => rfl
  | @putField m tag foreign w =>
    refine decode_congr rfl (fun t carried c hc => ?_) fun _ _ _ _ => rfl
    have other : c.tag ≠ tag := fun same => foreign t carried (same ▸ List.mem_map_of_mem hc)
    rw [withField, Keyed.lookup_insert, if_neg other]
  | @dropField m tag foreign =>
    refine decode_congr rfl (fun t carried c hc => ?_) fun _ _ _ _ => rfl
    have other : c.tag ≠ tag := fun same => foreign t carried (same ▸ List.mem_map_of_mem hc)
    rw [withoutField, Keyed.lookup_erase, if_neg other]
  | @putMessage m tag foreign n =>
    refine decode_congr rfl (fun _ _ _ _ => rfl) fun t carried q hq => ?_
    have other : q.tag ≠ tag := fun same => foreign t carried (same ▸ List.mem_map_of_mem hq)
    rw [withMessage, Keyed.lookup_insert, if_neg other]
  | @dropMessage m tag foreign =>
    refine decode_congr rfl (fun _ _ _ _ => rfl) fun t carried q hq => ?_
    have other : q.tag ≠ tag := fun same => foreign t carried (same ▸ List.mem_map_of_mem hq)
    rw [withoutMessage, Keyed.lookup_erase, if_neg other]
  | @inside m n n' tag nested _ ih =>
    refine decode_congr rfl (fun _ _ _ _ => rfl) fun t carried q hq => ?_
    rw [withMessage, Keyed.lookup_insert]
    split
    next same => rw [same, nested, Option.map_some, Option.map_some, ih]
    next => rfl

/-- **The decoder sees neither what is left out nor what it does not know.** Zeros of fields
without presence may go, and undeclared fields and messages may come and go, at any depth: the
record stays the same, and so does the error. -/
theorem Document.decode_edited {d : Document} (resolved : d.resolve = .ok p)
    (edits : Relation.ReflTransGen (Message.Edit p) m m') : m'.decode p = m.decode p := by
  have wellFormed := Document.wellFormed_of_resolve resolved
  induction edits with
  | refl => rfl
  | tail _ edit ih => rw [edit.decode_eq wellFormed, ih]

/-- `worldMessage` without the field that no column has. -/
def strippedMessage : Message :=
  ⟨"CountryProto", [(1, .string "Utopia")], [(3, ⟨"RegionProto", [], []⟩)]⟩

/-- The same with the zero of its region written out. -/
def spelledMessage : Message :=
  ⟨"CountryProto", [(1, .string "Utopia")], [(3, ⟨"RegionProto", [(1, .double ⟨0⟩)], []⟩)]⟩

theorem spelledMessage_edits (resolved : worldDocument.resolve = .ok p) :
    Relation.ReflTransGen (Message.Edit p) spelledMessage worldMessage := by
  have evaluated : (worldDocument.resolve.toOption.all fun p =>
      ((p.carried? "CountryProto").all fun t => !(t.columns.map ColumnPlan.tag).contains 7) &&
      ((p.carried? "RegionProto").any fun t => t.columns.any fun c =>
        c.tag = 1 ∧ c.wire = .scalar .double)) = true := by
    decide +kernel
  simp only [Option.all_eq_true, toOption_eq_some, Bool.and_eq_true, Option.any_eq_true,
    List.any_eq_true, decide_eq_true_eq, Bool.not_eq_true', List.contains_eq_mem,
    decide_eq_false_iff_not] at evaluated
  obtain ⟨undeclared, region, table, seen, column, tag, implicit⟩ := evaluated p resolved
  have omitted : Message.Edit p spelledMessage strippedMessage := by
    have nested : spelledMessage.messages.lookup 3 =
        some ⟨"RegionProto", [(1, .double ⟨0⟩)], []⟩ := rfl
    have zero : [(1, WireValue.double ⟨0⟩)].lookup seen.tag = some ScalarKind.double.zero := by
      rw [tag]
      rfl
    have edit := Message.Edit.inside nested (.omitZero table column implicit zero)
    rw [tag] at edit
    exact edit
  have foreign : strippedMessage.ForeignField p 7 := undeclared
  exact .tail (.single omitted) (.putField foreign (.int32 0))

theorem spelledMessage_decodes :
    ∃ p, worldDocument.resolve = .ok p ∧
      Relation.ReflTransGen (Message.Edit p) spelledMessage worldMessage ∧
      worldMessage.decode p = spelledMessage.decode p ∧
      spelledMessage.decode p = .ok worldCountry := by
  obtain ⟨p, resolved, decoded⟩ := worldMessage_decodes
  have edits := spelledMessage_edits resolved
  have same := Document.decode_edited resolved edits
  exact ⟨p, resolved, edits, same, same.symm.trans decoded⟩

end Tablecast
