/-
# Values of fields survive

`LeafKind.Takes` says which values the texts of a leaf kind stand for.  Such a value is written, and
what is written is decoded to the same value; a quantity in another unit of its family comes back
converted into the unit of the field, and a timestamp that no text stands for comes back as the
second after it (`decode_of_encode`).

Of the timestamps that are decoded, those whose local year has four digits are written and decoded
again, and no others (`redecode_timestamp`).
-/
import GridRecords.Proofs.Leaf.ReadBack
import GridRecords.Proofs.Time.Read

namespace GridRecords

/-- The values that the texts of a leaf kind stand for.  Where blank text says nothing, the absent
value is one of them. -/
inductive LeafKind.Takes : LeafKind → Value → Prop where
  | absent {kind : LeafKind} (h : kind.acceptsBlank = false) : Takes kind .null
  | text (s : String) : Takes .text (.text s)
  | boolean (b : Bool) : Takes .boolean (.bool b)
  /-- a whole number of sixty-four bits -/
  | integer {n : Int} (low : -2 ^ 63 ≤ n) (high : n < 2 ^ 63) : Takes .integer (.int n)
  | uuid (u : Uuid) : Takes .uuid (.uuid u)
  | timestamp {t : Timestamp} (h : t.Legible) : Takes .timestamp (.timestamp t)
  | geoPoint {p : Option GeoPoint} (h : ∀ x, p = some x → x.Built) : Takes .geoPoint (.geoPoint p)
  | quantity {q : Quantity} (h : q.isFinite = true) : Takes (.quantity q.unit) (.quantity q)

variable {kind : LeafKind} {policy : BooleanPolicy} {v : Value} {text : String}

/-! ## Writing -/

theorem encode_null (kind : LeafKind) : kind.encode .null = .ok "" := by
  cases kind <;> rfl

/-- A quantity is written in the unit of its field, whenever it is finite there. -/
theorem exists_encode_quantity {unit : MeasureUnit} {q converted : Quantity}
    (same : q.convert unit = .ok converted) (finite : converted.isFinite = true) :
    ∃ text, amountText? converted.value = some text ∧
      (LeafKind.quantity unit).encode (.quantity q) = .ok text := by
  obtain ⟨text, written⟩ := (Decimal.exists_finiteText?_iff Decimal.amount converted.value).2 finite
  have amount : amountText? converted.value = some text := written
  refine ⟨text, amount, ?_⟩
  simp only [LeafKind.encode, LeafKind.quantityText, same, amount]
  rfl

/-! ## Reading -/

theorem decode_blank (h : kind.acceptsBlank = false) (policy : BooleanPolicy) :
    kind.decode policy "" = .ok .null := by
  simp [LeafKind.decode, h, Text.trim, Text.trimStart, Text.trimEnd]

/-- **Values survive being written and decoded**, whatever boolean fields make of other texts: the
value that is decoded is the one that was written, its offset, its leap second and each bit of its
magnitude included.  A quantity in another unit of the family comes back as it is converted into
the unit of the field, whenever it is finite there.  A timestamp whose fraction goes on for more
than a second that is not the last of its minute comes back as the next second. -/
theorem LeafKind.decode_of_encode (kind : LeafKind) (policy : BooleanPolicy) :
    (∀ v, kind.Takes v → ∃ text, kind.encode v = .ok text ∧ kind.decode policy text = .ok v) ∧
      (∀ (unit : MeasureUnit) (q converted : Quantity), kind = .quantity unit →
        q.convert unit = .ok converted → converted.isFinite = true →
          ∃ text, kind.encode (.quantity q) = .ok text ∧
            kind.decode policy text = .ok (.quantity converted)) ∧
      ∀ t : Timestamp, kind = .timestamp → t.Printable → ¬ t.LeapsAtMinuteEnd →
        ∃ text, kind.encode (.timestamp t) = .ok text ∧
          kind.decode policy text = .ok (.timestamp t.carried) := by
  have quantity {unit : MeasureUnit} {q converted : Quantity}
      (same : q.convert unit = .ok converted) (finite : converted.isFinite = true) :
      ∃ text, (LeafKind.quantity unit).encode (.quantity q) = .ok text ∧
        (LeafKind.quantity unit).decode policy text = .ok (.quantity converted) := by
    obtain ⟨text, written, encoded⟩ := exists_encode_quantity same finite
    have own := Quantity.unit_of_convert same
    subst own
    exact ⟨text, encoded, (Holds.quantity converted).decode written policy⟩
  refine ⟨?_, ?_, ?_⟩
  · intro v takes
    cases takes with
    | absent h => exact ⟨"", encode_null kind, decode_blank h policy⟩
    | text s => exact ⟨s, rfl, (Holds.text s).decode rfl policy⟩
    | boolean b => exact ⟨_, rfl, (Holds.boolean b).decode rfl policy⟩
    | integer low high => exact ⟨_, rfl, decode_toString low high policy⟩
    | uuid u => exact ⟨_, rfl, (Holds.uuid u).decode rfl policy⟩
    | timestamp legible => exact ⟨_, rfl, (Holds.timestamp legible).decode rfl policy⟩
    | geoPoint inRange => exact ⟨_, rfl, (Holds.geoPoint inRange).decode rfl policy⟩
    | quantity finite => exact quantity (Quantity.convert_self rfl) finite
  · rintro unit q converted rfl same finite
    exact quantity same finite
  · rintro t rfl printable other
    have written : (Value.timestamp t.carried).rowText? = some t.text :=
      congrArg some (Timestamp.text_carried printable.toRepresentable other)
    exact ⟨_, rfl, (Holds.timestamp (printable.carried other)).decode written policy⟩

/-- The least whole number, negative zero and a leap second survive, and 400 V are 0.4 kV. -/
theorem decode_of_encode_extremes :
    (∀ v, v = (LeafKind.integer, Value.int (-2 ^ 63)) ∨
        v = (.quantity .kilovolt, .quantity ⟨-0.0, .kilovolt⟩) ∨
        v = (.timestamp, .timestamp ⟨1483228799, 1500000000, -3600⟩) →
      ∃ text, v.1.encode v.2 = .ok text ∧ v.1.decode .strict text = .ok v.2) ∧
    ∃ text, (LeafKind.quantity .kilovolt).encode (.quantity ⟨400.0, .volt⟩) = .ok text ∧
      (LeafKind.quantity .kilovolt).decode .strict text = .ok (.quantity ⟨0.4, .kilovolt⟩) := by
  refine ⟨?_, ?_⟩
  · rintro v (rfl | rfl | rfl)
    · exact (LeafKind.decode_of_encode _ .strict).1 _ (.integer (by decide) (by decide))
    · exact (LeafKind.decode_of_encode _ .strict).1 _
        (.quantity (q := ⟨-0.0, .kilovolt⟩) (by decide))
    · have legible : Timestamp.Legible ⟨1483228799, 1500000000, -3600⟩ :=
        ⟨⟨⟨by decide, by decide⟩, by decide, by decide⟩, by decide⟩
      exact (LeafKind.decode_of_encode _ .strict).1 _ (.timestamp legible)
  · have value : (400.0 * 1.0 + 0.0 - 0.0) / (1e3 : Float) = 0.4 := by decide +kernel
    have same : Quantity.convert ⟨400.0, .volt⟩ .kilovolt =
        .ok ⟨(400.0 * 1.0 + 0.0 - 0.0) / 1e3, .kilovolt⟩ := rfl
    rw [value] at same
    exact (LeafKind.decode_of_encode _ .strict).2.1 _ _ _ rfl same (by decide)

/-- A fraction that goes on for more than the fifth second is decoded as a part of the sixth. -/
theorem not_decode_of_encode_stretched :
    Timestamp.stretched.Printable ∧
      LeafKind.timestamp.encode (.timestamp Timestamp.stretched) =
        .ok "1970-01-01T00:00:05.333333333Z" ∧
      LeafKind.timestamp.decode .strict "1970-01-01T00:00:05.333333333Z" =
        .ok (.timestamp ⟨5, 333333333, 0⟩) ∧
      (Timestamp.stretched == ⟨5, 333333333, 0⟩) = false :=
  ⟨Timestamp.printable_stretched, rfl, rfl, rfl⟩

/-! ## Timestamps that were decoded -/

/-- A text without blanks at its ends that is not read is reported as malformed. -/
theorem decode_eq_error {fault : String} (trimmed : Text.trim text.toList = text.toList)
    (some' : text.toList ≠ []) (h : kind.readValue policy text text.toList = .error fault) :
    kind.decode policy text = .error (.parsing kind.name text fault) := by
  have notBlank : text.toList.isEmpty = false := by simpa using some'
  simp only [LeafKind.decode, trimmed, notBlank, h, Bool.false_and, Bool.false_eq_true, if_false]
  rfl

/-- **A timestamp that was decoded is decoded again from its text exactly if its local year has four
digits.**  Then the same instant comes back under the same offset.  Otherwise the text of the
timestamp is malformed, and the timestamp itself was read in the form to the minute. -/
theorem LeafKind.redecode_timestamp {raw : String} {t : Timestamp}
    (h : LeafKind.timestamp.decode policy raw = .ok (.timestamp t)) :
    LeafKind.timestamp.encode (.timestamp t) = .ok t.text ∧
      (0 ≤ t.toLocal.date.year ∧ t.toLocal.date.year ≤ 9999 →
        LeafKind.timestamp.decode policy t.text = .ok (.timestamp t)) ∧
      (¬(0 ≤ t.toLocal.date.year ∧ t.toLocal.date.year ≤ 9999) →
        LeafKind.timestamp.decode policy t.text =
            .error (.parsing "timestamp" t.text "input contains invalid characters") ∧
          Timestamp.ofRfc3339? (Timestamp.dropZone (Text.trim raw.toList)) = none) := by
  have read : Timestamp.read (Text.trim raw.toList) = .ok t := by
    obtain ⟨-, -, none⟩ | ⟨-, given⟩ := decode_eq_ok_iff.1 h
    · cases none
    · simp only [readValue, Outcome.mapError_eq_ok, Outcome.exceptMap_eq_ok] at given
      obtain ⟨t', read, same⟩ := given
      cases same
      exact read
  obtain ⟨l, shows, rfc3339⟩ := Timestamp.exists_shows_of_read read
  rw [shows.toLocal_eq]
  refine ⟨rfl, ?_, ?_⟩
  · intro year
    exact (Holds.timestamp (shows.legible year)).decode rfl policy
  · intro beyond
    refine ⟨decode_eq_error (shows.trim_text_beyond beyond) t.toList_text_ne_nil ?_, ?_⟩
    · simp only [readValue, Timestamp.read_text_beyond shows beyond]
      rfl
    · by_contra form
      exact beyond (rfc3339 form)

/-- With a zone between brackets and no seconds, a timestamp is decoded, and decoded again. -/
theorem redecode_timestamp_zone :
    ∃ t, LeafKind.timestamp.decode .strict "2020-03-24T15:11+01:00[CET]" = .ok (.timestamp t) ∧
      LeafKind.timestamp.decode .strict t.text = .ok (.timestamp t) := by
  have reads : ((Timestamp.read "2020-03-24T15:11+01:00[CET]".toList).toOption.any
      (· = ⟨1585059060, 0, 3600⟩)) = true := by decide +kernel
  obtain ⟨t, read, same⟩ := Outcome.exists_of_any reads
  cases of_decide_eq_true same
  have decoded : LeafKind.timestamp.decode .strict "2020-03-24T15:11+01:00[CET]" =
      .ok (.timestamp ⟨1585059060, 0, 3600⟩) := by
    refine decode_of_readValue (by decide +kernel) (by decide +kernel) ?_
    simp only [LeafKind.readValue, read]
    rfl
  obtain ⟨-, again, -⟩ := LeafKind.redecode_timestamp decoded
  exact ⟨_, decoded, again (by decide)⟩

/-- The year 10000 is decoded with its sign, but not from the text that is written for it. -/
theorem not_redecoded_of_year :
    ∃ t, LeafKind.timestamp.decode .strict "+10000-01-01T00:00Z" = .ok (.timestamp t) ∧
      LeafKind.timestamp.encode (.timestamp t) = .ok "+10000-01-01T00:00:00Z" ∧
      ∀ v, LeafKind.timestamp.decode .strict "+10000-01-01T00:00:00Z" ≠ .ok v := by
  refine ⟨⟨253402300800, 0, 0⟩, rfl, rfl, fun v decoded => ?_⟩
  have malformed : LeafKind.timestamp.decode .strict "+10000-01-01T00:00:00Z" =
      .error (.parsing "timestamp" "+10000-01-01T00:00:00Z" "input contains invalid characters") :=
    rfl
  rw [malformed] at decoded
  cases decoded

end GridRecords
