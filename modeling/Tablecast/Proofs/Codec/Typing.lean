import Tablecast.Proofs.Codec.RoundTrip

/-!
# Types of related records

A relationship leads to one type, and its message is declared with the name of that type. The codec
does not look at either: a related record travels under the name that it bears itself, and a nested
message becomes a record of the type that its own name carries. So types are neither made nor lost
on the way, and what comes out fits the relationships exactly if what went in did.

* `Record.Typed`, `Message.Typed`: every part is of the type that its relationship leads to;
* `Message.Carries`: what the codec makes of a record or a message has the same types;
* `Document.codec_typed_iff`: typed records for typed messages, in both directions.
-/

namespace Tablecast

/-- The records under the relationships of the table are of the types that these lead to, at every
depth. -/
inductive Record.Typed (p : Plan) : Record → Prop
  | intro {r : Record} {t : TablePlan} (table : p.table? r.typeName = some t)
      (target : ∀ q ∈ t.relationships, ∀ x, r.related.lookup q.field.fieldName = some x →
        x.typeName = q.field.targetType)
      (related : ∀ q ∈ t.relationships, ∀ x, r.related.lookup q.field.fieldName = some x →
        Typed p x) :
      Typed p r

/-- The messages under the relationships of the table have the names that these declare, at every
depth. -/
inductive Message.Typed (p : Plan) : Message → Prop
  | intro {m : Message} {t : TablePlan} (table : p.carried? m.name = some t)
      (target : ∀ q ∈ t.relationships, ∀ n, m.messages.lookup q.tag = some n →
        n.name = q.messageName)
      (nested : ∀ q ∈ t.relationships, ∀ n, m.messages.lookup q.tag = some n → Typed p n) :
      Typed p m

/-- The message and the record name one table, and so do what they have under each of its
relationships, at every depth. -/
inductive Message.Carries (p : Plan) : Message → Record → Prop
  | intro {m : Message} {r : Record} {t : TablePlan} (carried : p.carried? m.name = some t)
      (table : p.table? r.typeName = some t)
      (loaded : ∀ q ∈ t.relationships,
        (m.messages.lookup q.tag).isSome = (r.related.lookup q.field.fieldName).isSome)
      (nested : ∀ q ∈ t.relationships, ∀ n x, m.messages.lookup q.tag = some n →
        r.related.lookup q.field.fieldName = some x → Carries p n x) :
      Carries p m r

@[elab_as_elim]
theorem Message.induct {motive : Message → Prop}
    (step : ∀ m : Message, (∀ e ∈ m.messages, motive e.2) → motive m) (m : Message) : motive m :=
  step m fun e _ => Message.induct step e.2
termination_by sizeOf m
decreasing_by
  obtain ⟨name, fields, messages⟩ := m
  obtain ⟨tag, n⟩ := e
  have inside : sizeOf (tag, n) < sizeOf messages := List.sizeOf_lt_of_mem ‹_›
  simp only [Prod.mk.sizeOf_spec, Message.mk.sizeOf_spec] at inside ⊢
  omega

namespace Message

variable {p : Plan} {m : Message} {r : Record}

theorem Carries.name_eq (h : m.Carries p r) : m.name = Naming.message r.typeName := by
  obtain ⟨carried, table, -, -⟩ := h
  have messageName := List.find?_some carried
  have typeName := List.find?_some table
  simp only [decide_eq_true_eq] at messageName typeName
  rw [← messageName, TablePlan.messageName, typeName]

/-- The message has the name that a relationship declares exactly if the record is of the type that
it leads to. -/
theorem Carries.fits_iff (h : m.Carries p r) (q : RelationshipPlan) :
    m.name = q.messageName ↔ r.typeName = q.field.targetType := by
  rw [h.name_eq, RelationshipPlan.messageName, Naming.message_injective.eq_iff]

theorem Carries.typed_iff (h : m.Carries p r) : m.Typed p ↔ r.Typed p := by
  induction h with
  | @intro m r t carried table loaded nested ih =>
    have loaded_message : ∀ q ∈ t.relationships, ∀ x,
        r.related.lookup q.field.fieldName = some x → ∃ n, m.messages.lookup q.tag = some n := by
      intro q hq x hx
      rw [← Option.isSome_iff_exists, loaded q hq, hx, Option.isSome_some]
    have loaded_record : ∀ q ∈ t.relationships, ∀ n, m.messages.lookup q.tag = some n →
        ∃ x, r.related.lookup q.field.fieldName = some x := by
      intro q hq n hn
      rw [← Option.isSome_iff_exists, ← loaded q hq, hn, Option.isSome_some]
    constructor
    · rintro ⟨carried', target, typed⟩
      obtain rfl := Option.some.inj (carried.symm.trans carried')
      refine .intro table (fun q hq x hx => ?_) (fun q hq x hx => ?_)
      · obtain ⟨n, hn⟩ := loaded_message q hq x hx
        exact ((nested q hq n x hn hx).fits_iff q).mp (target q hq n hn)
      · obtain ⟨n, hn⟩ := loaded_message q hq x hx
        exact (ih q hq n x hn hx).mp (typed q hq n hn)
    · rintro ⟨table', target, typed⟩
      obtain rfl := Option.some.inj (table.symm.trans table')
      refine .intro carried (fun q hq n hn => ?_) (fun q hq n hn => ?_)
      · obtain ⟨x, hx⟩ := loaded_record q hq n hn
        exact ((nested q hq n x hn hx).fits_iff q).mpr (target q hq x hx)
      · obtain ⟨x, hx⟩ := loaded_record q hq n hn
        exact (ih q hq n x hn hx).mpr (typed q hq x hx)

/-! ## What the codec makes -/

theorem carries_of_encode (wellFormed : p.WellFormed) (encoded : r.encode p = .ok m) :
    m.Carries p r := by
  induction r using Record.induct generalizing m with
  | step r ih =>
    obtain ⟨t, table, encodes⟩ := (Record.encode_eq_ok wellFormed).mp encoded
    have carried : p.carried? m.name = some t :=
      encodes.name ▸ wellFormed.carried?_messageName (List.mem_of_find?_eq_some table)
    refine .intro carried table (fun q hq => (isSome_eq_of_rel (encodes.message q hq)).symm)
      (fun q hq n x hn hx => ?_)
    have both := encodes.message q hq
    rw [hn, hx, Option.rel_some_some] at both
    exact ih (q.field.fieldName, x) (mem_of_lookup hx) both

theorem carries_of_decode (wellFormed : p.WellFormed) (decoded : m.decode p = .ok r) :
    m.Carries p r := by
  induction m using Message.induct generalizing r with
  | step m ih =>
    obtain ⟨t, carried, decodes⟩ := exists_decodes_of_decode wellFormed decoded
    have table : p.table? r.typeName = some t :=
      decodes.typeName ▸ wellFormed.table?_typeName (List.mem_of_find?_eq_some carried)
    refine .intro carried table (fun q hq => isSome_eq_of_rel (decodes.related q hq))
      (fun q hq n x hn hx => ?_)
    have both := decodes.related q hq
    rw [hn, hx, Option.rel_some_some] at both
    exact ih (q.tag, n) (mem_of_lookup hn) both

end Message

/-- **The codec keeps types.** An encoded record is a typed message exactly if it is a typed record,
and a decoded message is a typed record exactly if it is a typed message. The codec refuses neither
a record nor a message because of the relationship it stands under. -/
theorem Document.codec_typed_iff {d : Document} {p : Plan} (resolved : d.resolve = .ok p) :
    (∀ r m, Record.encode p r = .ok m → (m.Typed p ↔ r.Typed p)) ∧
      ∀ m s, Message.decode p m = .ok s → (s.Typed p ↔ m.Typed p) := by
  have wellFormed := Document.wellFormed_of_resolve resolved
  constructor
  · intro r m encoded
    exact (Message.carries_of_encode wellFormed encoded).typed_iff
  · intro m s decoded
    exact (Message.carries_of_decode wellFormed decoded).typed_iff.symm

/-! ## Typed and untyped records -/

/-- What one level of a typed record is like. -/
def Record.fits (p : Plan) (r : Record) : Bool :=
  (p.table? r.typeName).any fun t => t.relationships.all fun q =>
    (r.related.lookup q.field.fieldName).all fun x => x.typeName = q.field.targetType

theorem Record.fits_iff {p : Plan} {r : Record} :
    r.fits p = true ↔ ∃ t, p.table? r.typeName = some t ∧ ∀ q ∈ t.relationships, ∀ x,
      r.related.lookup q.field.fieldName = some x → x.typeName = q.field.targetType := by
  simp only [Record.fits, Option.any_eq_true, List.all_eq_true, Option.all_eq_true,
    decide_eq_true_eq]

/-- A record is typed if it fits on every level. -/
theorem Record.typed_of_fits {p : Plan} {r : Record} (fits : r.fits p = true)
    (related : ∀ e ∈ r.related, e.2.Typed p) : r.Typed p := by
  obtain ⟨t, table, target⟩ := Record.fits_iff.mp fits
  exact .intro table target fun q _ x hx => related (q.field.fieldName, x) (mem_of_lookup hx)

theorem Record.Typed.fits {p : Plan} {r : Record} (h : r.Typed p) : r.fits p = true := by
  obtain ⟨table, target, -⟩ := h
  exact Record.fits_iff.mpr ⟨_, table, target⟩

theorem worldRecord_typed :
    ∃ p m, worldDocument.resolve = .ok p ∧ worldRecord.encode p = .ok m ∧ worldRecord.Typed p ∧
      m.Typed p := by
  obtain ⟨p, m, resolved, encoded⟩ := worldRecord_encodes
  have evaluated : (worldDocument.resolve.toOption.all fun p => worldRecord.fits p &&
      worldRecord.related.all fun e => e.2.fits p &&
        e.2.related.all fun e => e.2.fits p && e.2.related.isEmpty) = true := by
    decide +kernel
  simp only [Option.all_eq_true, toOption_eq_some, Bool.and_eq_true, List.all_eq_true,
    List.isEmpty_iff] at evaluated
  obtain ⟨customer, related⟩ := evaluated p resolved
  have typed : worldRecord.Typed p := by
    refine Record.typed_of_fits customer fun country hc => ?_
    refine Record.typed_of_fits (related country hc).1 fun region hr => ?_
    obtain ⟨fits, alone⟩ := (related country hc).2 region hr
    exact Record.typed_of_fits fits (by simp [alone])
  exact ⟨p, m, resolved, encoded, typed,
    ((Document.codec_typed_iff resolved).1 worldRecord m encoded).mpr typed⟩

/-- A customer whose country is a region. -/
def misplacedRecord : Record :=
  ⟨"Customer", [("CountryId", .int 44), ("CustId", .int 7)],
    [("Country", ⟨"Region", [("Seen", .timestamp sightingTime)], []⟩)]⟩

/-- The codec takes it, in both directions. -/
theorem misplacedRecord_passes :
    ∃ p m s, worldDocument.resolve = .ok p ∧ misplacedRecord.encode p = .ok m ∧ ¬ m.Typed p ∧
      m.decode p = .ok s ∧ ¬ s.Typed p := by
  have evaluated : (worldDocument.resolve.toOption.any fun p => !misplacedRecord.fits p &&
      (misplacedRecord.encode p).toOption.any fun m => (m.decode p).toOption.isSome) = true := by
    decide +kernel
  simp only [Option.any_eq_true, toOption_eq_some, Bool.and_eq_true, Bool.not_eq_true',
    Option.isSome_iff_exists] at evaluated
  obtain ⟨p, resolved, misfit, m, encoded, s, decoded⟩ := evaluated
  have wellFormed := Document.wellFormed_of_resolve resolved
  have untyped : ¬ misplacedRecord.Typed p := by
    intro typed
    rw [typed.fits] at misfit
    cases misfit
  have untyped_message : ¬ m.Typed p :=
    mt (Message.carries_of_encode wellFormed encoded).typed_iff.mp untyped
  exact ⟨p, m, s, resolved, encoded, untyped_message, decoded,
    mt (Message.carries_of_decode wellFormed decoded).typed_iff.mpr untyped_message⟩

end Tablecast
