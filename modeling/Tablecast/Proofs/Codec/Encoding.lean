import Tablecast.Proofs.Codec.RoundTrip

/-!
# Which records are encoded

A record is encoded exactly if its type is one of the plan, each column of the table takes the
value that the record has there, and the same holds of each related record that is loaded under a
relationship of the table. The message then is of the shape that the table declares: its fields are
those of the columns with a value, each of the kind of the column's wire type, and its nested
messages those of the loaded relationships.

* `ColumnPlan.exists_encode_iff`, `Record.exists_encode_iff`: what is encoded;
* `ColumnPlan.kind_encode`, `Message.shapedBy_of_encode`: what becomes of it;
* `Document.encoded_iff`: both, for a resolved document.
-/

namespace Tablecast

/-! ## Kinds -/

/-- What a value is sent as. -/
def WireValue.kind : WireValue → ScalarKind ⊕ CompositeKind
  | .int32 _ => .inl .int32
  | .int64 _ => .inl .int64
  | .float _ => .inl .float
  | .double _ => .inl .double
  | .string _ => .inl .string
  | .bytes _ => .inl .bytes
  | .decimal _ => .inr .decimal
  | .date _ => .inr .date

/-- The scalar or the message that a wire type names, with or without label. -/
def WireType.kind : WireType → ScalarKind ⊕ CompositeKind
  | .scalar kind | .optional kind => .inl kind
  | .composite kind => .inr kind

theorem FieldType.kind_wire (t : FieldType) : t.wire.kind = t.semantic.carrier := by
  unfold wire
  cases t.semantic.carrier with
  | inl kind => cases t.nullable <;> rfl
  | inr kind => rfl

theorem Value.semantic?_eq_none {v : Value} : v.semantic? = none ↔ v = .null := by
  cases v <;> simp [semantic?]

/-! ## Columns -/

/-- Null where it is allowed, or a value of the column's family. Timestamps are not finer than a
microsecond. -/
inductive ColumnPlan.Takes (c : ColumnPlan) : Value → Prop
  | null (nullable : c.type.nullable = true) : Takes c .null
  | value {v : Value} (family : v.semantic? = some c.type.semantic)
      (whole : ∀ t, v = .timestamp t → t.IsWholeMicroseconds) : Takes c v

namespace ColumnPlan

variable {c : ColumnPlan} {v : Value}

/-- A value that is carried is sent as its family is. -/
theorem kind_carry {semantic : Semantic} (family : v.semantic? = some semantic)
    {o : Option WireValue} (carried : c.carry v = .ok o) :
    ∃ w, o = some w ∧ w.kind = semantic.carrier := by
  cases v with
  | null => cases family
  | timestamp t =>
    cases family
    by_cases whole : t.IsWholeMicroseconds
    · rw [carry, if_pos whole] at carried
      cases carried
      exact ⟨_, rfl, rfl⟩
    · rw [carry, if_neg whole] at carried
      cases carried
  | _ =>
    cases family
    cases carried
    exact ⟨_, rfl, rfl⟩

theorem exists_carry_iff {semantic : Semantic} (family : v.semantic? = some semantic) :
    (∃ o, c.carry v = .ok o) ↔ ∀ t, v = .timestamp t → t.IsWholeMicroseconds := by
  cases v with
  | null => cases family
  | timestamp t => by_cases whole : t.IsWholeMicroseconds <;> simp [carry, whole]
  | _ => simp [carry]

/-- **What a column encodes.** -/
theorem exists_encode_iff : (∃ o, c.encode v = .ok o) ↔ c.Takes v := by
  constructor
  · rintro ⟨o, encoded⟩
    cases family : v.semantic? with
    | none =>
      obtain rfl := Value.semantic?_eq_none.mp family
      exact .null (encode_null.mp encoded).1
    | some semantic =>
      obtain ⟨rfl, carried⟩ := (encode_value family).mp encoded
      exact .value family ((exists_carry_iff family).mp ⟨o, carried⟩)
  · intro takes
    cases takes with
    | null nullable => exact ⟨none, encode_null.mpr ⟨nullable, rfl⟩⟩
    | value family whole =>
      obtain ⟨o, carried⟩ := (exists_carry_iff family).mpr whole
      exact ⟨o, (encode_value family).mpr ⟨rfl, carried⟩⟩

theorem isSome_encode {o : Option WireValue} (encoded : c.encode v = .ok o) :
    o.isSome ↔ v ≠ .null := by
  cases family : v.semantic? with
  | none =>
    obtain rfl := Value.semantic?_eq_none.mp family
    obtain ⟨-, rfl⟩ := encode_null.mp encoded
    simp
  | some semantic =>
    obtain ⟨-, carried⟩ := (encode_value family).mp encoded
    obtain ⟨w, rfl, -⟩ := kind_carry family carried
    have notNull : v ≠ .null := by
      rintro rfl
      cases family
    simp [notNull]

/-- **What a column makes of a value** is of the kind that the column's wire type names. -/
theorem kind_encode (wire : c.wire = c.type.wire) {w : WireValue}
    (encoded : c.encode v = .ok (some w)) : w.kind = c.wire.kind := by
  rw [wire, FieldType.kind_wire]
  cases family : v.semantic? with
  | none =>
    obtain rfl := Value.semantic?_eq_none.mp family
    cases (encode_null.mp encoded).2
  | some semantic =>
    obtain ⟨rfl, carried⟩ := (encode_value family).mp encoded
    obtain ⟨_, same, kind⟩ := kind_carry family carried
    cases same
    exact kind

end ColumnPlan

/-! ## Records -/

/-- The record is of a type of the plan, each column of its table takes what the record has there,
and the same holds of each related record that the table declares. -/
inductive Record.Encodable (p : Plan) : Record → Prop
  | intro {r : Record} {t : TablePlan} (table : t ∈ p.tables) (typeName : t.typeName = r.typeName)
      (column : ∀ c ∈ t.columns, c.Takes (r.value c.fieldName))
      (related : ∀ q ∈ t.relationships, ∀ x, r.related.lookup q.field.fieldName = some x →
        Encodable p x) :
      Encodable p r

/-- The message is what its table declares, for what the record has: the fields of the columns that
are not null, each of the kind of the column's wire type, and the nested messages of the loaded
relationships, for which the same holds. -/
inductive Message.ShapedBy (p : Plan) : Message → Record → Prop
  | intro {m : Message} {r : Record} {t : TablePlan} (table : t ∈ p.tables)
      (typeName : t.typeName = r.typeName) (name : m.name = t.messageName)
      (tags : (m.fields.map Prod.fst).Perm
        ((t.columns.filter fun c => r.value c.fieldName ≠ .null).map ColumnPlan.tag))
      (kind : ∀ c ∈ t.columns, ∀ w, m.fields.lookup c.tag = some w → w.kind = c.wire.kind)
      (present : ∀ c ∈ t.columns, c.wire.hasPresence = false → (m.fields.lookup c.tag).isSome)
      (nested_tags : (m.messages.map Prod.fst).Perm
        ((t.relationships.filter fun q => (r.related.lookup q.field.fieldName).isSome).map
          RelationshipPlan.tag))
      (nested : ∀ q ∈ t.relationships, ∀ x n, r.related.lookup q.field.fieldName = some x →
        m.messages.lookup q.tag = some n → ShapedBy p n x) :
      ShapedBy p m r

variable {p : Plan} {r : Record} {m : Message}

/-- A record is encoded if each of its declared parts is. -/
theorem Record.exists_encode {t : TablePlan} (table : p.table? r.typeName = some t)
    (column : ∀ c ∈ t.columns, ∃ o, c.encode (r.value c.fieldName) = .ok o)
    (related : ∀ q ∈ t.relationships, ∀ x, r.related.lookup q.field.fieldName = some x →
      ∃ n, x.encode p = .ok n) :
    ∃ m, r.encode p = .ok m := by
  obtain ⟨typeName, values, loaded⟩ := r
  obtain ⟨fields, fields_ok⟩ :
      ∃ fields, encodeFields (Record.mk typeName values []).value t.columns = .ok fields :=
    Keyed.exists_collect column []
  obtain ⟨messages, messages_ok⟩ : ∃ messages,
      encodeRelationships (encodeRelated p loaded) t.relationships = .ok messages := by
    apply Keyed.exists_collect
    intro q hq
    simp only [lookup_encodeRelated, loaded_eq_ok]
    cases found : loaded.lookup q.field.fieldName with
    | none => exact ⟨none, .none⟩
    | some x =>
      obtain ⟨n, encoded⟩ := related q hq x found
      exact ⟨some n, .some encoded⟩
  refine ⟨⟨t.messageName, fields, messages⟩, ?_⟩
  simp only [Record.encode, table, fields_ok, messages_ok]
  rfl

/-- **What is encoded.** -/
theorem Record.exists_encode_iff (wellFormed : p.WellFormed) :
    (∃ m, r.encode p = .ok m) ↔ r.Encodable p := by
  induction r using Record.induct with
  | step r ih =>
    constructor
    · rintro ⟨m, encoded⟩
      obtain ⟨t, table, encodes⟩ := (Record.encode_eq_ok wellFormed).mp encoded
      refine .intro (List.mem_of_find?_eq_some table) (by simpa using List.find?_some table) ?_ ?_
      · intro c hc
        exact ColumnPlan.exists_encode_iff.mp ⟨_, encodes.field c hc⟩
      · intro q hq x loaded
        apply (ih _ (mem_of_lookup loaded)).mp
        have message := encodes.message q hq
        rw [loaded] at message
        generalize m.messages.lookup q.tag = found at message
        cases message with
        | some encoded => exact ⟨_, encoded⟩
    · rintro ⟨table, typeName, column, related⟩
      apply Record.exists_encode (typeName ▸ wellFormed.table?_typeName table)
      · intro c hc
        exact ColumnPlan.exists_encode_iff.mpr (column c hc)
      · intro q hq x loaded
        exact (ih _ (mem_of_lookup loaded)).mpr (related q hq x loaded)

/-- **What becomes of a record.** -/
theorem Message.shapedBy_of_encode (wellFormed : p.WellFormed) (encoded : r.encode p = .ok m) :
    m.ShapedBy p r := by
  induction r using Record.induct generalizing m with
  | step r ih =>
    obtain ⟨t, table, encodes⟩ := (Record.encode_eq_ok wellFormed).mp encoded
    have member := List.mem_of_find?_eq_some table
    have shape := wellFormed.tables t member
    obtain ⟨columns, relationships, -⟩ := List.nodup_append.mp shape.tags_nodup
    have present : ∀ c ∈ t.columns,
        ((m.fields.lookup c.tag).isSome ↔ r.value c.fieldName ≠ .null) := by
      intro c hc
      exact ColumnPlan.isSome_encode (encodes.field c hc)
    refine .intro member (by simpa using List.find?_some table) encodes.name ?_ ?_ ?_ ?_ ?_
    · refine Keyed.keys_perm columns encodes.fields_ordered ?_ encodes.field_declared
      intro c hc
      rw [Bool.eq_iff_iff, present c hc, decide_eq_true_eq]
    · intro c hc w found
      exact ColumnPlan.kind_encode (shape.conversions c hc).1 (found ▸ encodes.field c hc)
    · intro c hc implicit
      rw [present c hc]
      intro null
      obtain ⟨nullable, -⟩ := ColumnPlan.encode_null.mp (null ▸ encodes.field c hc)
      have explicit := ColumnPlan.hasPresence_of_nullable (shape.conversions c hc).1 nullable
      rw [explicit] at implicit
      cases implicit
    · refine Keyed.keys_perm relationships encodes.messages_ordered ?_ encodes.message_declared
      intro q hq
      exact (isSome_eq_of_rel (encodes.message q hq)).symm
    · intro q hq x n loaded found
      obtain ⟨x', loaded', encoded⟩ := encodes.nested hq found
      obtain rfl := Option.some.inj (loaded.symm.trans loaded')
      exact ih _ (mem_of_lookup loaded) encoded

/-- **Which records are encoded, and to what.** -/
theorem Document.encoded_iff {d : Document} (resolved : d.resolve = .ok p) (r : Record) :
    ((∃ m, r.encode p = .ok m) ↔ r.Encodable p) ∧
      ∀ m, r.encode p = .ok m → m.ShapedBy p r := by
  have wellFormed := Document.wellFormed_of_resolve resolved
  exact ⟨Record.exists_encode_iff wellFormed, fun m => Message.shapedBy_of_encode wellFormed⟩

theorem worldRecord_encodable :
    ∃ p m, worldDocument.resolve = .ok p ∧ worldRecord.encode p = .ok m ∧
      worldRecord.Encodable p ∧ m.ShapedBy p worldRecord := by
  obtain ⟨p, m, resolved, encoded⟩ := worldRecord_encodes
  obtain ⟨accepted, shaped⟩ := Document.encoded_iff resolved worldRecord
  exact ⟨p, m, resolved, encoded, accepted.mp ⟨m, encoded⟩, shaped m encoded⟩

end Tablecast
