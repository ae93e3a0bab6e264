import Tablecast.Proofs.Codec.Encoding
import Tablecast.Proofs.Codec.Typing

/-!
# Which messages are decoded

A message is decoded exactly if it bears the name of a table's message, each column of the table
reads what is found under its number, and the same holds of each nested message under the number of
a relationship. The record then has one value for each column, which the column takes, and the
related records that were there.

* `ColumnPlan.exists_decode_iff`, `Message.exists_decode_iff`: what is decoded;
* `ColumnPlan.takes_decode`, `Record.filledBy_of_decode`: what becomes of it;
* `Document.decoded_iff`: both, for a resolved document.
-/

namespace Tablecast

open Calendar Numeric

/-! ## Payloads -/

/-- A payload of the right kind stands for a value of the family. -/
def Semantic.Converts : Semantic → WireValue → Prop
  | .shortInt, .int32 n => -32768 ≤ n.toInt ∧ n.toInt ≤ 32767
  | .date, .date d => IsDate d.year.toInt d.month.toNat d.day.toNat
  | .timestamp, .double x =>
    ∃ t : Timestamp, t.IsWholeMicroseconds ∧ ¬ t.time.IsLeapSecond ∧
      (x.mul microsecondsPerSecond).round? = some t.toMicroseconds
  | _, _ => True

theorem Calendar.Date.ofFields?_eq_none {year : Int} {month day : Nat} :
    Date.ofFields? year month day = none ↔ ¬ IsDate year month day := by
  simp [Date.ofFields?]

/-! ## Columns -/

/-- An absent field is implicit or may be null; one that is present is of the kind that carries the
column's family, and its payload converts. -/
inductive ColumnPlan.Reads (c : ColumnPlan) : Option WireValue → Prop
  | implicit {kind : ScalarKind} (wire : c.wire = .scalar kind) : Reads c none
  | null (nullable : c.type.nullable = true) : Reads c none
  | value {w : WireValue} (kind : w.kind = c.type.semantic.carrier)
      (converts : c.type.semantic.Converts w) : Reads c (some w)

namespace ColumnPlan

variable {c : ColumnPlan}

/-- **What a column reads in a payload.** -/
theorem exists_uncarry_iff {w : WireValue} :
    (∃ v, c.uncarry w = .ok v) ↔
      w.kind = c.type.semantic.carrier ∧ c.type.semantic.Converts w := by
  fun_cases uncarry c w with
  | case1 n family short => simpa [family, WireValue.kind, Semantic.carrier, Semantic.Converts]
  | case2 n family long =>
    simpa [family, WireValue.kind, Semantic.carrier, Semantic.Converts] using long
  | case10 d family date found =>
    have exists_date : IsDate d.year.toInt d.month.toNat d.day.toNat := by
      by_contra missing
      rw [Date.ofFields?_eq_none.mpr missing] at found
      cases found
    simpa [family, WireValue.kind, Semantic.carrier, Semantic.Converts]
  | case11 d family missing =>
    simpa [family, WireValue.kind, Semantic.carrier, Semantic.Converts]
      using Date.ofFields?_eq_none.mp missing
  | case12 x family t found =>
    have counted := timestampOfSeconds?_eq_some.mp found
    simpa [family, WireValue.kind, Semantic.carrier, Semantic.Converts] using ⟨t, counted⟩
  | case13 x family missing =>
    have uncounted : ¬ Semantic.timestamp.Converts (.double x) := by
      rintro ⟨t, counted⟩
      rw [timestampOfSeconds?_eq_some.mpr counted] at missing
      cases missing
    simpa [family, WireValue.kind, Semantic.carrier] using uncounted
  | case14 =>
    -- The families before this case and their kinds are all there are.
    refine iff_of_false (fun ⟨v, found⟩ => nomatch found) ?_
    rintro ⟨kind, -⟩
    cases family : c.type.semantic <;> rw [family] at kind <;> cases w <;> cases kind <;> simp_all
  | _ => simp [*, WireValue.kind, Semantic.carrier, Semantic.Converts]

/-- A payload is read as a value of the column's family. -/
theorem takes_uncarry {w : WireValue} {v : Value} (read : c.uncarry w = .ok v) : c.Takes v := by
  revert read
  fun_cases uncarry c w with
  | case2 | case11 | case13 | case14 => exact nofun
  | case12 x family t found =>
    rintro ⟨⟩
    refine .value (by rw [family]; rfl) ?_
    rintro u ⟨⟩
    exact (timestampOfSeconds?_eq_some.mp found).1
  | _ =>
    rintro ⟨⟩
    exact .value (by rw [‹c.type.semantic = _›]; rfl) fun _ same => nomatch same

/-- What an absent field stands for is a value of the family, unless it is null. -/
theorem takes_zero : c.Takes c.type.semantic.zero := by
  cases family : c.type.semantic with
  | timestamp =>
    refine .value (by rw [family]; rfl) ?_
    rintro t ⟨⟩
    decide
  | _ => exact .value (by rw [family]; rfl) fun _ same => nomatch same

/-- An absent field is zero without presence, and otherwise null if that is allowed. -/
theorem absent_cases :
    (∃ kind, c.wire = .scalar kind) ∧ c.absent = .ok c.type.semantic.zero ∨
      c.type.nullable = true ∧ c.absent = .ok .null ∨
      c.wire.hasPresence = true ∧ c.type.nullable = false ∧
        c.absent = .error (.missingValue c.fieldName) := by
  unfold absent
  cases wire : c.wire with
  | scalar kind => exact .inl ⟨⟨kind, rfl⟩, rfl⟩
  | optional kind => cases null : c.type.nullable <;> simp [WireType.hasPresence]
  | composite kind => cases null : c.type.nullable <;> simp [WireType.hasPresence]

/-- **What a column reads.** -/
theorem exists_decode_iff {o : Option WireValue} : (∃ v, c.decode o = .ok v) ↔ c.Reads o := by
  cases o with
  | none =>
    constructor
    · rintro ⟨v, decoded⟩
      rcases c.absent_cases with ⟨⟨kind, wire⟩, -⟩ | ⟨nullable, -⟩ | ⟨-, -, missing⟩
      · exact .implicit wire
      · exact .null nullable
      · cases missing.symm.trans decoded
    · intro reads
      rcases c.absent_cases with ⟨-, zero⟩ | ⟨-, null⟩ | ⟨present, notNull, -⟩
      · exact ⟨_, zero⟩
      · exact ⟨_, null⟩
      · cases reads with
        | implicit wire =>
          rw [wire] at present
          cases present
        | null nullable =>
          rw [nullable] at notNull
          cases notNull
  | some w =>
    simp only [decode_some, exists_uncarry_iff]
    constructor
    · rintro ⟨kind, converts⟩
      exact .value kind converts
    · intro reads
      cases reads with
      | value kind converts => exact ⟨kind, converts⟩

/-- **What a column makes of a field** is what it takes. -/
theorem takes_decode {o : Option WireValue} {v : Value} (decoded : c.decode o = .ok v) :
    c.Takes v := by
  cases o with
  | none =>
    rcases c.absent_cases with ⟨-, zero⟩ | ⟨nullable, null⟩ | ⟨-, -, missing⟩
    · cases zero.symm.trans decoded
      exact takes_zero
    · cases null.symm.trans decoded
      exact .null nullable
    · cases missing.symm.trans decoded
  | some w => exact takes_uncarry (decode_some.mp decoded)

end ColumnPlan

/-! ## Messages -/

/-- The message bears the name of a table's message, each column of the table reads what is under
its number, and the same holds of each nested message that the table declares. -/
inductive Message.Decodable (p : Plan) : Message → Prop
  | intro {m : Message} {t : TablePlan} (table : t ∈ p.tables) (name : t.messageName = m.name)
      (column : ∀ c ∈ t.columns, c.Reads (m.fields.lookup c.tag))
      (nested : ∀ q ∈ t.relationships, ∀ n, m.messages.lookup q.tag = some n → Decodable p n) :
      Decodable p m

/-- The record is one of the table whose name the message bears: it has one value for each column,
which the column takes, and the related records of the nested messages, for which the same
holds. -/
inductive Record.FilledBy (p : Plan) : Record → Message → Prop
  | intro {s : Record} {m : Message} {t : TablePlan} (table : t ∈ p.tables)
      (name : t.messageName = m.name) (typeName : s.typeName = t.typeName)
      (fields : (s.values.map Prod.fst).Perm (t.columns.map ColumnPlan.fieldName))
      (value : ∀ c ∈ t.columns, c.Takes (s.value c.fieldName))
      (related_fields : (s.related.map Prod.fst).Perm
        ((t.relationships.filter fun q => (m.messages.lookup q.tag).isSome).map
          fun q => q.field.fieldName))
      (related : ∀ q ∈ t.relationships, ∀ n x, m.messages.lookup q.tag = some n →
        s.related.lookup q.field.fieldName = some x → FilledBy p x n) :
      FilledBy p s m

variable {p : Plan} {m : Message} {s : Record}

/-- **What is decoded.** -/
theorem Message.exists_decode_iff (wellFormed : p.WellFormed) :
    (∃ s, m.decode p = .ok s) ↔ m.Decodable p := by
  induction m using Message.induct with
  | step m ih =>
    constructor
    · rintro ⟨s, decoded⟩
      obtain ⟨t, carried, decodes⟩ := exists_decodes_of_decode wellFormed decoded
      refine .intro (List.mem_of_find?_eq_some carried) (by simpa using List.find?_some carried)
        ?_ ?_
      · intro c hc
        obtain ⟨v, read, -⟩ := decodes.value c hc
        exact ColumnPlan.exists_decode_iff.mp ⟨v, read⟩
      · intro q hq n found
        apply (ih _ (mem_of_lookup found)).mp
        have related := decodes.related q hq
        rw [found] at related
        generalize s.related.lookup q.field.fieldName = loaded at related
        cases related with
        | some decoded => exact ⟨_, decoded⟩
    · rintro ⟨table, name, column, nested⟩
      have carried := name ▸ wellFormed.carried?_messageName table
      obtain ⟨s, decoded, -⟩ := Message.exists_decodes (wellFormed.tables _ table) carried
        (fun c hc => ColumnPlan.exists_decode_iff.mpr (column c hc))
        (fun q hq n found => (ih _ (mem_of_lookup found)).mpr (nested q hq n found))
      exact ⟨s, decoded⟩

/-- **What becomes of a message.** -/
theorem Record.filledBy_of_decode (wellFormed : p.WellFormed) (decoded : m.decode p = .ok s) :
    s.FilledBy p m := by
  induction m using Message.induct generalizing s with
  | step m ih =>
    obtain ⟨t, carried, decodes⟩ := Message.exists_decodes_of_decode wellFormed decoded
    have member := List.mem_of_find?_eq_some carried
    obtain ⟨columns, relationships, -⟩ :=
      List.nodup_append.mp (wellFormed.tables t member).fieldNames_nodup
    refine .intro member (by simpa using List.find?_some carried) decodes.typeName ?_ ?_ ?_ ?_
    · rw [← List.filter_true t.columns]
      refine Keyed.keys_perm columns decodes.values_ordered ?_ decodes.value_declared
      intro c hc
      obtain ⟨v, -, found⟩ := decodes.value c hc
      rw [found, Option.isSome_some]
    · intro c hc
      obtain ⟨v, read, found⟩ := decodes.value c hc
      rw [Record.value, found]
      exact ColumnPlan.takes_decode read
    · refine Keyed.keys_perm relationships decodes.related_ordered ?_ decodes.related_declared
      intro q hq
      exact (isSome_eq_of_rel (decodes.related q hq)).symm
    · intro q hq n x found loaded
      have both := decodes.related q hq
      rw [found, loaded, Option.rel_some_some] at both
      exact ih _ (mem_of_lookup found) both

/-- **Which messages are decoded, and to what.** -/
theorem Document.decoded_iff {d : Document} (resolved : d.resolve = .ok p) (m : Message) :
    ((∃ s, m.decode p = .ok s) ↔ m.Decodable p) ∧
      ∀ s, m.decode p = .ok s → s.FilledBy p m := by
  have wellFormed := Document.wellFormed_of_resolve resolved
  exact ⟨Message.exists_decode_iff wellFormed, fun s => Record.filledBy_of_decode wellFormed⟩

/-- A country without a date, and its region without anything. -/
def worldMessage : Message :=
  ⟨"CountryProto", [(1, .string "Utopia"), (7, .int32 0)], [(3, ⟨"RegionProto", [], []⟩)]⟩

theorem worldMessage_decodable :
    ∃ p s, worldDocument.resolve = .ok p ∧ worldMessage.decode p = .ok s ∧
      worldMessage.Decodable p ∧ s.FilledBy p worldMessage := by
  have evaluated : (worldDocument.resolve.toOption.bind fun p =>
      (worldMessage.decode p).toOption).isSome = true := by
    decide +kernel
  simp only [Option.isSome_iff_exists, Option.bind_eq_some_iff, toOption_eq_some] at evaluated
  obtain ⟨s, p, resolved, decoded⟩ := evaluated
  obtain ⟨accepted, filled⟩ := Document.decoded_iff resolved worldMessage
  exact ⟨p, s, resolved, decoded, accepted.mp ⟨s, decoded⟩, filled s decoded⟩

end Tablecast
