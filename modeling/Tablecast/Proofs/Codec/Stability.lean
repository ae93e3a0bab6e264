import Tablecast.Proofs.Codec.Decoding

/-!
# Decoded records

Whatever message a record was decoded from, it is in normal form and can be encoded again. Its new
message need not be the old one: zeros that were left out are written, and what no table declares
is gone. But it stands for the same record.

* `Record.encodable_of_decode`, `Record.normalForm_of_decode`: what a decoded record is like;
* `Document.decode_stable`: decoding it once more changes nothing.
-/

namespace Tablecast

variable {p : Plan} {m : Message} {s : Record}

theorem Message.Decodes.nested {t : TablePlan} (h : m.Decodes p t s) {q : RelationshipPlan}
    (hq : q ∈ t.relationships) {x : Record}
    (loaded : s.related.lookup q.field.fieldName = some x) :
    ∃ n, m.messages.lookup q.tag = some n ∧ n.decode p = .ok x := by
  have related := h.related q hq
  rw [loaded] at related
  generalize m.messages.lookup q.tag = found at related
  cases related with
  | some decoded => exact ⟨_, rfl, decoded⟩

theorem Message.Decodes.value_eq {t : TablePlan} (h : m.Decodes p t s) {c : ColumnPlan}
    (hc : c ∈ t.columns) : c.decode (m.fields.lookup c.tag) = .ok (s.value c.fieldName) := by
  obtain ⟨v, read, found⟩ := h.value c hc
  rw [read, Record.value, found, Option.getD_some]

/-- What is loaded under any name was decoded from a message of the table. -/
theorem Message.Decodes.loaded {t : TablePlan} (h : m.Decodes p t s) {f : String} {x : Record}
    (found : s.related.lookup f = some x) :
    f ∈ t.relationships.map (fun q => q.field.fieldName) ∧
      ∃ e ∈ m.messages, e.2.decode p = .ok x := by
  by_cases declared : f ∈ t.relationships.map fun q => q.field.fieldName
  · obtain ⟨q, hq, rfl⟩ := List.mem_map.mp declared
    obtain ⟨n, inside, decoded⟩ := h.nested hq found
    exact ⟨declared, _, mem_of_lookup inside, decoded⟩
  · rw [h.related_declared f declared] at found
    cases found

/-- **A decoded record can be encoded.** -/
theorem Record.encodable_of_decode (wellFormed : p.WellFormed) (decoded : m.decode p = .ok s) :
    s.Encodable p := by
  induction m using Message.induct generalizing s with
  | step m ih =>
    obtain ⟨t, carried, decodes⟩ := Message.exists_decodes_of_decode wellFormed decoded
    refine .intro (List.mem_of_find?_eq_some carried) decodes.typeName.symm ?_ ?_
    · intro c hc
      exact ColumnPlan.takes_decode (decodes.value_eq hc)
    · intro q _ x loaded
      obtain ⟨-, e, inside, decoded⟩ := decodes.loaded loaded
      exact ih e inside decoded

/-- **A decoded record is in normal form.** -/
theorem Record.normalForm_of_decode (wellFormed : p.WellFormed) (decoded : m.decode p = .ok s) :
    s.NormalForm p s := by
  induction m using Message.induct generalizing s with
  | step m ih =>
    obtain ⟨t, carried, decodes⟩ := Message.exists_decodes_of_decode wellFormed decoded
    have table : p.table? s.typeName = some t :=
      decodes.typeName ▸ wellFormed.table?_typeName (List.mem_of_find?_eq_some carried)
    refine .intro table rfl decodes.values_ordered (fun f v => ?_) decodes.related_ordered
      (fun f => ?_) (fun f x y hx hy => ?_)
    · by_cases declared : f ∈ t.columns.map ColumnPlan.fieldName
      · obtain ⟨c, hc, rfl⟩ := List.mem_map.mp declared
        obtain ⟨w, -, found⟩ := decodes.value c hc
        simp only [Record.value, found, declared, true_and, Option.some.injEq, Option.getD_some,
          eq_comm]
      · simp only [decodes.value_declared f declared, declared, false_and, reduceCtorEq]
    · constructor
      · intro present
        obtain ⟨x, found⟩ := Option.isSome_iff_exists.mp present
        exact ⟨(decodes.loaded found).1, present⟩
      · exact And.right
    · obtain rfl := Option.some.inj (hx.symm.trans hy)
      obtain ⟨-, e, inside, decoded⟩ := decodes.loaded hx
      exact ih e inside decoded

/-- **Decoding is stable.** A decoded record is encoded again, to a message that decodes to that
very record, if the wire gives back its timestamps. -/
theorem Document.decode_stable {d : Document} (resolved : d.resolve = .ok p)
    (decoded : m.decode p = .ok s) :
    ∃ n, s.encode p = .ok n ∧
      ((∀ t, s.Holds (.timestamp t) → t.RoundTrips) → n.decode p = .ok s) := by
  have wellFormed := Document.wellFormed_of_resolve resolved
  have normal := Record.normalForm_of_decode wellFormed decoded
  obtain ⟨n, encoded⟩ := (Record.exists_encode_iff wellFormed).mpr
    (Record.encodable_of_decode wellFormed decoded)
  refine ⟨n, encoded, fun lossless => ?_⟩
  obtain ⟨s', decoded', normal'⟩ := Record.exists_decode_encode wellFormed s encoded lossless
  rw [decoded', normal.eq_of_normalForm normal']

/-- What `worldMessage` stands for: no date of foundation, and a region last seen at the epoch. -/
def worldCountry : Record :=
  ⟨"Country", [("Founded", .null), ("Name", .string "Utopia")],
    [("Region", ⟨"Region", [("Seen", .timestamp .epoch)], []⟩)]⟩

theorem worldMessage_decodes :
    ∃ p, worldDocument.resolve = .ok p ∧ worldMessage.decode p = .ok worldCountry := by
  have evaluated : (worldDocument.resolve.toOption.bind fun p =>
      (worldMessage.decode p).toOption) = some worldCountry := rfl
  simpa only [Option.bind_eq_some_iff, toOption_eq_some] using evaluated

theorem worldCountry_timestamps {t : Calendar.Timestamp}
    (h : worldCountry.Holds (.timestamp t)) : t = .epoch := by
  rcases h with h | ⟨h, h'⟩
  · simp [worldCountry] at h
  · obtain ⟨rfl, rfl⟩ := Prod.mk.inj (List.mem_singleton.mp h)
    rcases h' with h | ⟨h, -⟩
    · obtain ⟨-, same⟩ := Prod.mk.inj (List.mem_singleton.mp h)
      exact Value.timestamp.inj same
    · cases h

theorem epoch_roundTrips : Calendar.Timestamp.epoch.RoundTrips := by
  refine Calendar.Timestamp.roundTrips_of_seconds ?_
  decide +kernel

theorem worldMessage_stable :
    ∃ p n, worldDocument.resolve = .ok p ∧ worldMessage.decode p = .ok worldCountry ∧
      worldCountry.encode p = .ok n ∧ n.decode p = .ok worldCountry := by
  obtain ⟨p, resolved, decoded⟩ := worldMessage_decodes
  obtain ⟨n, encoded, stable⟩ := Document.decode_stable resolved decoded
  exact ⟨p, n, resolved, decoded, encoded,
    stable fun t held => worldCountry_timestamps held ▸ epoch_roundTrips⟩

end Tablecast
