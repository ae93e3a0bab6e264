import Mathlib.Data.String.Basic
import Tablecast.Proofs.Codec.Column
import Tablecast.Proofs.Keyed
import Tablecast.Proofs.Plan.Structure

/-!
# Records through messages

A record that a plan encodes comes back in its normal form: with a value for every column of its
table, null where it had none, and with the related records that its table declares, each in normal
form. What no table declares is lost on the way, and nothing else is.

* `Record.encode_eq_ok`, `Message.exists_decodes`: both directions, field by field;
* `Record.NormalForm.eq_of_normalForm`: a record has one normal form;
* `Document.record_round_trips`: decoding gives it back, at any depth of related records.
-/

namespace Tablecast

/-! ## Trees of records -/

@[elab_as_elim]
theorem Record.induct {motive : Record → Prop}
    (step : ∀ r : Record, (∀ e ∈ r.related, motive e.2) → motive r) (r : Record) : motive r :=
  step r fun e _ => Record.induct step e.2
termination_by sizeOf r
decreasing_by
  obtain ⟨typeName, values, related⟩ := r
  obtain ⟨fieldName, s⟩ := e
  have inside : sizeOf (fieldName, s) < sizeOf related := List.sizeOf_lt_of_mem ‹_›
  simp only [Prod.mk.sizeOf_spec, Record.mk.sizeOf_spec] at inside ⊢
  omega

/-- The value stands in the record or in a related one, at any depth. -/
inductive Record.Holds : Record → Value → Prop
  | value {r : Record} {fieldName : String} {v : Value} :
      (fieldName, v) ∈ r.values → Holds r v
  | related {r s : Record} {fieldName : String} {v : Value} :
      (fieldName, s) ∈ r.related → Holds s v → Holds r v

/-- A value that is found is null or stands in the record. -/
theorem Record.holds_value {r : Record} {fieldName : String} {v : Value}
    (h : r.value fieldName = v) (notNull : v ≠ .null) : r.Holds v := by
  cases found : r.values.lookup fieldName with
  | none => exact absurd (by rw [← h, Record.value, found]; rfl) notNull
  | some w =>
    rw [Record.value, found] at h
    cases h
    exact .value (mem_of_lookup found)

/-! ## One record and its message -/

theorem TablePlan.WellFormed.tags_nodup {t : TablePlan} (h : t.WellFormed) : t.tags.Nodup :=
  h.tags ▸ List.nodup_range'

/-- What is found is taken over, and what is not found is left out. -/
theorem loaded_eq_ok {α β ε : Type} {f : α → Except ε β} {found : Option α} {o : Option β} :
    (found.map f).sequence = .ok o ↔ Option.Rel (fun a b => f a = .ok b) found o := by
  cases found with
  | none =>
    rw [Option.map_none, Option.sequence_none, pure_eq_ok]
    cases o <;> simp
  | some a => cases o <;> cases h : f a <;> simp [h]

theorem rel_comp {α β γ : Type} {R : α → β → Prop} {S : β → γ → Prop} {T : α → γ → Prop}
    {x : Option α} {y : Option β} {z : Option γ}
    (compose : ∀ a b c, x = some a → R a b → S b c → T a c) (xy : Option.Rel R x y)
    (yz : Option.Rel S y z) : Option.Rel T x z := by
  cases xy with
  | none =>
    cases yz
    exact .none
  | some ab =>
    cases yz with
    | some bc => exact .some (compose _ _ _ rfl ab bc)

theorem isSome_eq_of_rel {α β : Type} {R : α → β → Prop} {x : Option α} {y : Option β}
    (h : Option.Rel R x y) : x.isSome = y.isSome := by
  cases h with
  | none => rfl
  | some _ => rfl

theorem map_some_eq_ok {α ε : Type} {x : Except ε α} {o : Option α} :
    x.map some = .ok o ↔ ∃ a, x = .ok a ∧ o = some a := by
  cases x with
  | error e => simp [Except.map]
  | ok a => simp [Except.map, eq_comm]

/-- The message says what the record does, under the numbers of the table. -/
structure Record.Encodes (p : Plan) (t : TablePlan) (r : Record) (m : Message) : Prop where
  name : m.name = t.messageName
  fields_ordered : Keyed.Ordered m.fields
  field : ∀ c ∈ t.columns, c.encode (r.value c.fieldName) = .ok (m.fields.lookup c.tag)
  field_declared : ∀ tag ∉ t.columns.map ColumnPlan.tag, m.fields.lookup tag = none
  messages_ordered : Keyed.Ordered m.messages
  message : ∀ q ∈ t.relationships, Option.Rel (fun s n => Record.encode p s = .ok n)
    (r.related.lookup q.field.fieldName) (m.messages.lookup q.tag)
  message_declared : ∀ tag ∉ t.relationships.map RelationshipPlan.tag,
    m.messages.lookup tag = none

/-- The record says what the message does, under the names of the table. -/
structure Message.Decodes (p : Plan) (t : TablePlan) (m : Message) (s : Record) : Prop where
  typeName : s.typeName = t.typeName
  values_ordered : Keyed.Ordered s.values
  value : ∀ c ∈ t.columns, ∃ v, c.decode (m.fields.lookup c.tag) = .ok v ∧
    s.values.lookup c.fieldName = some v
  value_declared : ∀ f ∉ t.columns.map ColumnPlan.fieldName, s.values.lookup f = none
  related_ordered : Keyed.Ordered s.related
  related : ∀ q ∈ t.relationships, Option.Rel (fun n x => Message.decode p n = .ok x)
    (m.messages.lookup q.tag) (s.related.lookup q.field.fieldName)
  related_declared : ∀ f ∉ t.relationships.map fun q => q.field.fieldName,
    s.related.lookup f = none

theorem Record.encode_eq_ok {p : Plan} (wellFormed : p.WellFormed) {r : Record} {m : Message} :
    r.encode p = .ok m ↔ ∃ t, p.table? r.typeName = some t ∧ r.Encodes p t m := by
  obtain ⟨typeName, values, related⟩ := r
  obtain ⟨name, fields, messages⟩ := m
  rw [Record.encode]
  cases found : p.table? typeName with
  | none => simp
  | some t =>
    have table := wellFormed.tables t (List.mem_of_find?_eq_some found)
    obtain ⟨columns, relationships, -⟩ := List.nodup_append.mp table.tags_nodup
    simp only [bind_eq_ok, pure_eq_ok, encodeFields, encodeRelationships, lookup_encodeRelated,
      Keyed.collect_eq_ok columns, loaded_eq_ok,
      Keyed.collect_eq_ok relationships, Option.some.injEq, exists_eq_left']
    constructor
    · rintro ⟨_, ⟨fo, f, fd⟩, _, ⟨mo, m, md⟩, same⟩
      cases same
      exact ⟨rfl, fo, f, fd, mo, m, md⟩
    · rintro ⟨rfl, fo, f, fd, mo, m, md⟩
      exact ⟨fields, ⟨fo, f, fd⟩, messages, ⟨mo, m, md⟩, rfl⟩

theorem Message.decode_eq_ok {p : Plan} {t : TablePlan} (table : t.WellFormed) {m : Message}
    (carried : p.carried? m.name = some t) {s : Record} :
    m.decode p = .ok s ↔ m.Decodes p t s := by
  obtain ⟨name, fields, messages⟩ := m
  obtain ⟨typeName, values, related⟩ := s
  obtain ⟨columns, relationships, -⟩ := List.nodup_append.mp table.fieldNames_nodup
  rw [Message.decode]
  simp only [carried, bind_eq_ok, pure_eq_ok, decodeFields, decodeRelationships,
    lookup_decodeNested, Keyed.collect_eq_ok columns, Keyed.collect_eq_ok relationships,
    loaded_eq_ok, map_some_eq_ok]
  constructor
  · rintro ⟨_, ⟨vo, v, vd⟩, _, ⟨ro, r, rd⟩, same⟩
    cases same
    exact ⟨rfl, vo, v, vd, ro, r, rd⟩
  · rintro ⟨rfl, vo, v, vd, ro, r, rd⟩
    exact ⟨values, ⟨vo, v, vd⟩, related, ⟨ro, r, rd⟩, rfl⟩

/-- A message that is decoded bears the name of a table's message. -/
theorem Message.exists_decodes_of_decode {p : Plan} (wellFormed : p.WellFormed) {m : Message}
    {s : Record} (decoded : m.decode p = .ok s) :
    ∃ t, p.carried? m.name = some t ∧ m.Decodes p t s := by
  cases carried : p.carried? m.name with
  | none =>
    obtain ⟨name, fields, messages⟩ := m
    simp only [decode, carried, reduceCtorEq] at decoded
  | some t =>
    have table := wellFormed.tables t (List.mem_of_find?_eq_some carried)
    exact ⟨t, rfl, (decode_eq_ok table carried).mp decoded⟩

/-- A message is decoded if each of its declared parts is. -/
theorem Message.exists_decodes {p : Plan} {t : TablePlan} (table : t.WellFormed) {m : Message}
    (carried : p.carried? m.name = some t)
    (field : ∀ c ∈ t.columns, ∃ v, c.decode (m.fields.lookup c.tag) = .ok v)
    (message : ∀ q ∈ t.relationships, ∀ n, m.messages.lookup q.tag = some n →
      ∃ x, n.decode p = .ok x) :
    ∃ s, m.decode p = .ok s ∧ m.Decodes p t s := by
  have decoded : ∃ s, m.decode p = .ok s := by
    obtain ⟨name, fields, messages⟩ := m
    obtain ⟨values, values_ok⟩ : ∃ values, decodeFields fields t.columns = .ok values := by
      refine Keyed.exists_collect (fun c hc => ?_) []
      obtain ⟨v, decoded⟩ := field c hc
      exact ⟨some v, by rw [decoded]; rfl⟩
    obtain ⟨related, related_ok⟩ : ∃ related,
        decodeRelationships (decodeNested p messages) t.relationships = .ok related := by
      refine Keyed.exists_collect (fun q hq => ?_) []
      simp only [lookup_decodeNested, loaded_eq_ok]
      cases found : messages.lookup q.tag with
      | none => exact ⟨none, .none⟩
      | some n =>
        obtain ⟨x, decoded⟩ := message q hq n found
        exact ⟨some x, .some decoded⟩
    refine ⟨⟨t.typeName, values, related⟩, ?_⟩
    simp only [Message.decode, carried, values_ok, related_ok]
    rfl
  obtain ⟨s, decoded⟩ := decoded
  exact ⟨s, decoded, (Message.decode_eq_ok table carried).mp decoded⟩

/-! ## Normal forms -/

/-- The record as its table has it: a value for each column and nothing else, null where none is
set, and the related records that are loaded and declared, each in its normal form. -/
inductive Record.NormalForm (p : Plan) : Record → Record → Prop
  | intro {r s : Record} {t : TablePlan} (table : p.table? r.typeName = some t)
      (typeName : s.typeName = r.typeName)
      (values_ordered : Keyed.Ordered s.values)
      (value : ∀ f v, s.values.lookup f = some v ↔
        f ∈ t.columns.map ColumnPlan.fieldName ∧ v = r.value f)
      (related_ordered : Keyed.Ordered s.related)
      (loaded : ∀ f, (s.related.lookup f).isSome ↔
        f ∈ t.relationships.map (fun q => q.field.fieldName) ∧ (r.related.lookup f).isSome)
      (related : ∀ f x y, r.related.lookup f = some x → s.related.lookup f = some y →
        NormalForm p x y) :
      NormalForm p r s

/-- **A record has one normal form.** -/
theorem Record.NormalForm.eq_of_normalForm {p : Plan} {r s s' : Record} (h : r.NormalForm p s)
    (h' : r.NormalForm p s') : s' = s := by
  induction h generalizing s' with
  | @intro r s t table typeName values_ordered value related_ordered loaded related ih =>
    obtain ⟨table', typeName', values_ordered', value', related_ordered', loaded', related'⟩ := h'
    obtain rfl := Option.some.inj (table.symm.trans table')
    have values : s'.values = s.values := by
      refine Keyed.ext values_ordered' values_ordered fun f => Option.ext fun v => ?_
      rw [value, value']
    have nested : s'.related = s.related := by
      refine Keyed.ext related_ordered' related_ordered fun f => ?_
      have both := (loaded' f).trans (loaded f).symm
      cases found : s.related.lookup f with
      | none =>
        cases found' : s'.related.lookup f with
        | none => rfl
        | some y' =>
          rw [found, found'] at both
          exact absurd (both.mp rfl) nofun
      | some y =>
        have present : (s.related.lookup f).isSome := by rw [found]; rfl
        obtain ⟨y', found'⟩ := Option.isSome_iff_exists.mp (both.mpr present)
        obtain ⟨x, original⟩ := Option.isSome_iff_exists.mp ((loaded f).mp present).2
        rw [found', ih f x y original found (related' f x y' original found')]
    cases s
    cases s'
    simp only [Record.mk.injEq]
    exact ⟨typeName'.trans typeName.symm, values, nested⟩

/-! ## The round trip -/

theorem Record.Encodes.nested {p : Plan} {t : TablePlan} {r : Record} {m : Message}
    (h : r.Encodes p t m) {q : RelationshipPlan} (hq : q ∈ t.relationships) {n : Message}
    (found : m.messages.lookup q.tag = some n) :
    ∃ x, r.related.lookup q.field.fieldName = some x ∧ x.encode p = .ok n := by
  have message := h.message q hq
  rw [found] at message
  cases loaded : r.related.lookup q.field.fieldName with
  | none =>
    rw [loaded] at message
    cases message
  | some x =>
    rw [loaded] at message
    cases message with
    | some encoded => exact ⟨x, rfl, encoded⟩

/-- What the wire gives back for an encoded record is its normal form, if it gives back every
value and the normal form of every related record. -/
theorem Record.Encodes.normalForm {p : Plan} {t : TablePlan} {r s : Record} {m : Message}
    (encodes : r.Encodes p t m) (decodes : m.Decodes p t s)
    (table : p.table? r.typeName = some t)
    (value : ∀ c ∈ t.columns, c.decode (m.fields.lookup c.tag) = .ok (r.value c.fieldName))
    (related : ∀ f x n y, r.related.lookup f = some x → x.encode p = .ok n → n.decode p = .ok y →
      x.NormalForm p y) :
    r.NormalForm p s := by
  have typeName : t.typeName = r.typeName := by simpa using List.find?_some table
  have nested : ∀ q ∈ t.relationships, Option.Rel (NormalForm p)
      (r.related.lookup q.field.fieldName) (s.related.lookup q.field.fieldName) := by
    intro q hq
    refine rel_comp (fun x n y loaded encoded decoded => ?_) (encodes.message q hq)
      (decodes.related q hq)
    exact related q.field.fieldName x n y loaded encoded decoded
  refine .intro table (decodes.typeName.trans typeName) decodes.values_ordered (fun f v => ?_)
    decodes.related_ordered (fun f => ?_) (fun f x y hx hy => ?_)
  · by_cases declared : f ∈ t.columns.map ColumnPlan.fieldName
    · obtain ⟨c, hc, rfl⟩ := List.mem_map.mp declared
      obtain ⟨w, decoded, found⟩ := decodes.value c hc
      rw [value c hc] at decoded
      cases decoded
      simp only [found, declared, true_and, Option.some.injEq, eq_comm]
    · simp only [decodes.value_declared f declared, declared, false_and, reduceCtorEq]
  · by_cases declared : f ∈ t.relationships.map fun q => q.field.fieldName
    · obtain ⟨q, hq, rfl⟩ := List.mem_map.mp declared
      rw [isSome_eq_of_rel (nested q hq)]
      simp only [declared, true_and]
    · simp only [decodes.related_declared f declared, declared, false_and, Option.isSome_none,
        Bool.false_eq_true]
  · by_cases declared : f ∈ t.relationships.map fun q => q.field.fieldName
    · obtain ⟨q, hq, rfl⟩ := List.mem_map.mp declared
      have both := nested q hq
      rw [hx, hy] at both
      exact Option.rel_some_some.mp both
    · rw [decodes.related_declared f declared] at hy
      cases hy

theorem Record.exists_decode_encode {p : Plan} (wellFormed : p.WellFormed) (r : Record)
    {m : Message} (encoded : r.encode p = .ok m)
    (lossless : ∀ t, r.Holds (.timestamp t) → t.RoundTrips) :
    ∃ s, m.decode p = .ok s ∧ r.NormalForm p s := by
  induction r using Record.induct generalizing m with
  | step r ih =>
    obtain ⟨t, table, encodes⟩ := (Record.encode_eq_ok wellFormed).mp encoded
    have member := List.mem_of_find?_eq_some table
    have carried : p.carried? m.name = some t :=
      encodes.name ▸ wellFormed.carried?_messageName member
    have value : ∀ c ∈ t.columns,
        c.decode (m.fields.lookup c.tag) = .ok (r.value c.fieldName) := by
      intro c hc
      refine c.decode_encode ((wellFormed.tables t member).conversions c hc).1 ?_
        (encodes.field c hc)
      intro time found
      exact lossless time (Record.holds_value found nofun)
    have nested : ∀ f x n, r.related.lookup f = some x → x.encode p = .ok n →
        ∃ y, n.decode p = .ok y ∧ x.NormalForm p y := by
      intro f x n loaded encoded
      have inside := mem_of_lookup loaded
      exact ih (f, x) inside encoded fun time held => lossless time (.related inside held)
    obtain ⟨s, decoded, decodes⟩ := Message.exists_decodes (wellFormed.tables t member) carried
      (fun c hc => ⟨_, value c hc⟩) (fun q hq n found => by
        obtain ⟨x, loaded, encoded⟩ := encodes.nested hq found
        obtain ⟨y, decoded, -⟩ := nested _ x n loaded encoded
        exact ⟨y, decoded⟩)
    refine ⟨s, decoded, encodes.normalForm decodes table value ?_⟩
    intro f x n y loaded encoded decoded
    obtain ⟨y', decoded', normal⟩ := nested f x n loaded encoded
    rw [decoded] at decoded'
    cases decoded'
    exact normal

/-- **A record survives the wire.** Decoding what a record was encoded to succeeds and gives its
normal form, which is the only one. So a record in normal form comes back as it was. -/
theorem Document.record_round_trips {d : Document} {p : Plan} (resolved : d.resolve = .ok p)
    {r : Record} {m : Message} (encoded : r.encode p = .ok m)
    (lossless : ∀ t, r.Holds (.timestamp t) → t.RoundTrips) :
    ∃ s, m.decode p = .ok s ∧ r.NormalForm p s ∧ ∀ s', r.NormalForm p s' → s' = s := by
  obtain ⟨s, decoded, normal⟩ :=
    Record.exists_decode_encode (Document.wellFormed_of_resolve resolved) r encoded lossless
  exact ⟨s, decoded, normal, fun s' h => normal.eq_of_normalForm h⟩

/-- 2001-02-03 04:05:06.000789 -/
def sightingTime : Calendar.Timestamp := ⟨⟨2001, 2, 3, by decide⟩, ⟨4, 5, 6, 789000, by decide⟩⟩

/-- A customer with a country and its region, the parent not loaded. The nickname is no column. -/
def worldRecord : Record :=
  ⟨"Customer",
    [("CountryId", .int 44), ("Credit", .decimal ⟨-1250, 2⟩), ("CustId", .int 7),
      ("Nickname", .string "Al")],
    [("Country", ⟨"Country",
      [("Founded", .date .epoch), ("Name", .string "Utopia")],
      [("Region", ⟨"Region", [("Seen", .timestamp sightingTime)], []⟩)]⟩)]⟩

theorem sightingTime_roundTrips : sightingTime.RoundTrips := by
  refine Calendar.Timestamp.roundTrips_of_seconds ?_
  decide +kernel

theorem worldRecord_timestamps {t : Calendar.Timestamp} (h : worldRecord.Holds (.timestamp t)) :
    t = sightingTime := by
  rcases h with h | ⟨h, h'⟩
  · simp [worldRecord] at h
  · obtain ⟨rfl, rfl⟩ := Prod.mk.inj (List.mem_singleton.mp h)
    rcases h' with h | ⟨h, h'⟩
    · simp at h
    · obtain ⟨rfl, rfl⟩ := Prod.mk.inj (List.mem_singleton.mp h)
      rcases h' with h | ⟨h, h'⟩
      · obtain ⟨-, same⟩ := Prod.mk.inj (List.mem_singleton.mp h)
        exact Value.timestamp.inj same
      · cases h

theorem worldRecord_encodes :
    ∃ p m, worldDocument.resolve = .ok p ∧ worldRecord.encode p = .ok m := by
  have evaluated : (worldDocument.resolve.toOption.bind fun p =>
      (worldRecord.encode p).toOption).isSome = true := by
    decide +kernel
  simp only [Option.isSome_iff_exists, Option.bind_eq_some_iff, toOption_eq_some] at evaluated
  obtain ⟨m, p, resolved, encoded⟩ := evaluated
  exact ⟨p, m, resolved, encoded⟩

theorem worldRecord_round_trips :
    ∃ p m s, worldDocument.resolve = .ok p ∧ worldRecord.encode p = .ok m ∧
      m.decode p = .ok s ∧ worldRecord.NormalForm p s := by
  obtain ⟨p, m, resolved, encoded⟩ := worldRecord_encodes
  obtain ⟨s, decoded, normal, -⟩ := Document.record_round_trips resolved encoded fun t held =>
    worldRecord_timestamps held ▸ sightingTime_roundTrips
  exact ⟨p, m, s, resolved, encoded, decoded, normal⟩

end Tablecast
