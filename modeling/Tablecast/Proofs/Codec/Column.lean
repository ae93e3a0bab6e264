import Tablecast.Codec.Decode
import Tablecast.Proofs.Calendar.Counting

/-!
# Values through the wire

What a column encodes it decodes to the same value. Null goes through the presence of the field,
which a nullable type always has; a value goes through the carrier of its family, which holds it
exactly. Only timestamps may lose something, as their seconds are rounded, so a timestamp that does
not is a hypothesis here.

* `ColumnPlan.decode_encode`: decoding undoes encoding.
-/

namespace Tablecast

open Calendar Numeric

/-- A column that takes the timestamp gives it back unchanged. -/
def Calendar.Timestamp.RoundTrips (t : Timestamp) : Prop :=
  ∀ (c : ColumnPlan) (o : Option WireValue),
    c.encode (.timestamp t) = .ok o → c.decode o = .ok (.timestamp t)

/-! ## Carriers -/

theorem Decimal.toDecimal_toWire (d : Decimal) : d.toWire.toDecimal = d := by
  have halves : d.unscaled.extractLsb' 64 64 ++ d.unscaled.extractLsb' 0 64 = d.unscaled :=
    BitVec.extractLsb'_append_extractLsb'
  simp only [toWire, DecimalWire.toDecimal, Int64.toBitVec_ofBitVec, UInt64.toBitVec_ofBitVec]
  rw [halves]

theorem Calendar.IsDate.day_le {year : Int} {month day : Nat} (h : IsDate year month day) :
    day ≤ 31 := by
  have last : daysInMonth year month ≤ 31 := by
    unfold daysInMonth
    split
    · split <;> omega
    · split <;> omega
  exact Nat.le_trans h.2.2.2.2.2 last

theorem Calendar.Date.ofFields?_toWire (d : Date) :
    Date.ofFields? d.toWire.year.toInt d.toWire.month.toNat d.toWire.day.toNat = some d := by
  obtain ⟨year, month, day, isDate⟩ := d
  have shortDay := isDate.day_le
  have bounds := isDate
  obtain ⟨yearLow, yearHigh, -, monthHigh, -, -⟩ := bounds
  have same_year : (Int32.ofInt year).toInt = year :=
    Int32.toInt_ofInt_of_le (by omega) (by omega)
  have same_month : (UInt32.ofNat month).toNat = month :=
    UInt32.toNat_ofNat_of_lt' (by simp only [UInt32.size]; omega)
  have same_day : (UInt32.ofNat day).toNat = day :=
    UInt32.toNat_ofNat_of_lt' (by simp only [UInt32.size]; omega)
  simp only [toWire, same_year, same_month, same_day]
  exact dif_pos isDate

theorem timestampOfSeconds?_eq_some {x : Binary64} {t : Timestamp} :
    timestampOfSeconds? x = some t ↔ t.IsWholeMicroseconds ∧ ¬ t.time.IsLeapSecond ∧
      (x.mul microsecondsPerSecond).round? = some t.toMicroseconds := by
  unfold timestampOfSeconds?
  rw [Option.bind_eq_bind, Option.bind_eq_some_iff]
  simp only [Timestamp.ofMicroseconds?_eq_some]
  constructor
  · rintro ⟨n, rounded, whole, single, rfl⟩
    exact ⟨whole, single, rounded⟩
  · rintro ⟨whole, single, rounded⟩
    exact ⟨_, rounded, whole, single, rfl⟩

/-! ## Columns -/

namespace ColumnPlan

variable {c : ColumnPlan}

theorem encode_null {o : Option WireValue} :
    c.encode .null = .ok o ↔ c.type.nullable = true ∧ o = none := by
  cases null : c.type.nullable <;> simp [encode, Value.semantic?, null, eq_comm]

/-- A value is encoded by a column of its family, to what carries it. -/
theorem encode_value {v : Value} {semantic : Semantic} (family : v.semantic? = some semantic)
    {o : Option WireValue} :
    c.encode v = .ok o ↔ c.type.semantic = semantic ∧ c.carry v = .ok o := by
  by_cases same : semantic = c.type.semantic
  · simp [encode, family, same]
  · simp [encode, family, same, Ne.symm same]

theorem decode_some {w : WireValue} {v : Value} :
    c.decode (some w) = .ok v ↔ c.uncarry w = .ok v := by
  cases found : c.uncarry w <;> simp [decode, found]

/-- A field without presence is never null. -/
theorem hasPresence_of_nullable (wire : c.wire = c.type.wire) (null : c.type.nullable = true) :
    c.wire.hasPresence = true := by
  rw [wire, FieldType.wire]
  cases c.type.semantic.carrier with
  | inl kind => simp [null, WireType.hasPresence]
  | inr kind => rfl

/-- The carrier of a family holds its values exactly, timestamps apart. -/
theorem uncarry_carry {v : Value} (family : v.semantic? = some c.type.semantic)
    (calendar : c.type.semantic ≠ .timestamp) :
    ∃ w, c.carry v = .ok (some w) ∧ c.uncarry w = .ok v := by
  cases v with
  | null => cases family
  | shortInt n =>
    have same : c.type.semantic = .shortInt := (Option.some.inj family).symm
    have short : -32768 ≤ n.toInt ∧ n.toInt ≤ 32767 := ⟨n.le_toInt, Int.le_of_lt_add_one n.toInt_lt⟩
    refine ⟨_, rfl, ?_⟩
    simp [uncarry, same, short]
  | timestamp t => exact absurd (Option.some.inj family).symm calendar
  | date d =>
    have same : c.type.semantic = .date := (Option.some.inj family).symm
    refine ⟨_, rfl, ?_⟩
    simp only [uncarry, same, Date.ofFields?_toWire]
  | decimal d =>
    have same : c.type.semantic = .decimal := (Option.some.inj family).symm
    refine ⟨_, rfl, ?_⟩
    simp only [uncarry, same, Decimal.toDecimal_toWire]
  | _ =>
    have same := (Option.some.inj family).symm
    refine ⟨_, rfl, ?_⟩
    simp only [uncarry, same]

/-- **Decoding undoes encoding.** What a column of a resolved type encodes it decodes to the same
value, if timestamps lose nothing. -/
theorem decode_encode (wire : c.wire = c.type.wire) {v : Value}
    (lossless : ∀ t, v = .timestamp t → t.RoundTrips) {o : Option WireValue}
    (h : c.encode v = .ok o) : c.decode o = .ok v := by
  cases family : v.semantic? with
  | none =>
    obtain rfl : v = .null := by
      cases v with
      | null => rfl
      | _ => cases family
    obtain ⟨null, rfl⟩ := encode_null.mp h
    simp [decode, absent, hasPresence_of_nullable wire null, null]
  | some semantic =>
    obtain ⟨rfl, carried⟩ := (encode_value family).mp h
    by_cases calendar : c.type.semantic = .timestamp
    · obtain ⟨t, rfl⟩ : ∃ t, v = .timestamp t := by
        cases v with
        | timestamp t => exact ⟨t, rfl⟩
        | _ => simp [Value.semantic?, calendar] at family
      exact lossless t rfl c o h
    · obtain ⟨w, carried', uncarried⟩ := uncarry_carry family calendar
      rw [carried'] at carried
      cases carried
      exact decode_some.mpr uncarried

end ColumnPlan

/-- Enough for a timestamp to come back is that its seconds lead back to it. -/
theorem Calendar.Timestamp.roundTrips_of_seconds {t : Timestamp}
    (h : timestampOfSeconds? (epochSeconds t) = some t) : t.RoundTrips := by
  intro c o encoded
  obtain ⟨family, carried⟩ := (ColumnPlan.encode_value rfl).mp encoded
  by_cases whole : t.IsWholeMicroseconds
  · simp only [ColumnPlan.carry, if_pos whole, Except.ok.injEq] at carried
    subst carried
    refine ColumnPlan.decode_some.mpr ?_
    simp only [ColumnPlan.uncarry, family, h]
  · simp only [ColumnPlan.carry, if_neg whole, reduceCtorEq] at carried

end Tablecast
