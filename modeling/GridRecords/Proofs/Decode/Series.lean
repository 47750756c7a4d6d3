/-
# Series read back

The rows of a series are decoded one by one.  The column for the series is none of those that the
schema of time-based values knows, so a row in a series is read like the row of the value on its
own (`TimeBasedValue.decoded_of_flatten`), and the values that are decoded make the series again.
-/
import GridRecords.Proofs.Decode.ReadBack
import GridRecords.Proofs.Decode.Relevance
import GridRecords.Proofs.Model.Series
import GridRecords.Proofs.Row.Series

namespace GridRecords

open Decoding

variable {policy : BooleanPolicy} {registry : Registry}

/-! ## One value -/

namespace TimeBasedValue

variable {v : TimeBasedValue}

theorem timestamps_eq (v : TimeBasedValue) : (Entity.timeBasedValue v).timestamps = [v.time] := by
  obtain ⟨uuid, time, payload⟩ := v
  cases payload <;> rfl

/-- A value refers to no entities. -/
theorem holdsOf_empty (v : TimeBasedValue) : Context.HoldsOf Table.empty (.timeBasedValue v) := by
  refine .of_none ?_ fun _ => rfl
  obtain ⟨uuid, time, payload⟩ := v
  cases payload <;>
    simp [Entity.ownColumns, Entity.columns, identity, Payload.columns, Weather.position,
      Value.reference?]

/-- **The row of a value is decoded to the value**, through the signature of its family, whatever
stands in the column for its series. -/
theorem decoded_of_flatten (built : (Entity.timeBasedValue v).Built) (legible : v.time.Legible)
    {own : FlatRecord} (written : v.flatten = .ok own) {r : FieldRecord}
    (alike : ∀ name, name ≠ "series" → r.get? name = own.toRecord.get? name) :
    Schema.timeBasedValue.select r .empty = .ok (Schema.familySignature v.family) ∧
      plainEntity policy .timeBasedValue r .empty = .ok (.timeBasedValue v) := by
  have row : own.toRecord.RowOf (.timeBasedValue v) :=
    Entity.rowOf_toRecord built.unitsHeld written
  have known : ∀ name ∈ Schema.timeBasedValue.known, r.get? name = own.toRecord.get? name := by
    have unread : "series" ∉ Schema.timeBasedValue.known := by
      rw [Schema.mem_known]
      decide
    intro name mem
    refine alike name ?_
    rintro rfl
    exact unread mem
  have same : ReadAlike (Schema.builtin .timeBasedValue) .empty r own.toRecord := .of_known known
  constructor
  · have unknown : ∀ name ∈ Table.keys (Table.empty : Context),
        name ∈ (Entity.timeBasedValue v).columnNames := by
      intro name mem
      cases mem
    obtain ⟨signature, selected, -, -, family⟩ := Schema.select_of_rowOf row unknown
    rw [family v rfl] at selected
    exact (Schema.select_congr same.fields).trans selected
  · have decoded :
        plainEntity policy .timeBasedValue own.toRecord .empty = .ok (.timeBasedValue v) := by
      refine plainEntity_of_rowOf built rfl ?_ row v.holdsOf_empty
      rw [timestamps_eq, List.forall_mem_singleton]
      exact legible
    unfold plainEntity at decoded ⊢
    rw [plainWithin_of_readAlike _ same]
    exact decoded

end TimeBasedValue

/-! ## The round trip -/

namespace TimeSeries

/-- A row of a series for one of its entries: it has the columns of the family of the series, the
uuid of the series in its own.  Whatever stands there, the row is decoded to the entry through the
signature that is named after the family. -/
structure HasRow (s : TimeSeries) (registry : Registry) (v : TimeBasedValue) (row : FlatRecord) :
    Prop where
  family : s.family? = some v.family
  header : row.header = v.family.header true
  series : row.get? "series" = some s.uuid.text
  signature : ∀ r : FieldRecord,
    (∀ name, name ≠ "series" → r.get? name = row.toRecord.get? name) →
    ∃ signature, Schema.timeBasedValue.select r .empty = .ok signature ∧
      signature.name = v.family.name
  decoded : ∀ r : FieldRecord,
    (∀ name, name ≠ "series" → r.get? name = row.toRecord.get? name) →
    (Registry.decodeEntity .timeBasedValue r .empty registry).1 = .ok (.timeBasedValue v)

variable {uuid : Uuid} {given : List TimeBasedValue} {s : TimeSeries}

/-- Each entry of a series has a row. -/
theorem exists_hasRow (hr : registry.IsBuiltin policy) (h : checked uuid given = .ok s)
    {v : TimeBasedValue} (mem : v ∈ s.entries) (built : (Entity.timeBasedValue v).Built)
    (finite : ∀ q ∈ (Entity.timeBasedValue v).quantities, q.isFinite = true)
    (legible : v.time.Legible) :
    ∃ row, v.flattenIn (some s.uuid) = .ok row ∧ s.HasRow registry v row := by
  obtain ⟨own, written⟩ := (Entity.exists_flatten_iff built.unitsHeld).2 finite
  obtain ⟨row, inSeries, header, series, alike⟩ := TimeBasedValue.exists_flattenIn written s.uuid
  have decoded {r : FieldRecord}
      (same : ∀ name, name ≠ "series" → r.get? name = row.toRecord.get? name) :
      Schema.timeBasedValue.select r .empty = .ok (Schema.familySignature v.family) ∧
        plainEntity policy .timeBasedValue r .empty = .ok (.timeBasedValue v) :=
    TimeBasedValue.decoded_of_flatten built legible written fun name other =>
      (same name other).trans (alike name other)
  refine ⟨row, inSeries, family?_eq h mem, header, series, ?_, ?_⟩
  · intro r same
    exact ⟨_, (decoded same).1, rfl⟩
  · intro r same
    rw [ComesTo.eq (yields_decodeEntity .timeBasedValue r .empty) hr]
    exact (decoded same).2

/-- **A series is read back from its rows.**  Flattening gives a row for each entry, in the order
of the series, and the values that the rows are decoded to make the series again. -/
theorem rebuilt_of_flatten (hr : registry.IsBuiltin policy) (h : checked uuid given = .ok s)
    (built : ∀ v ∈ given, (Entity.timeBasedValue v).Built)
    (finite : ∀ v ∈ given, ∀ q ∈ (Entity.timeBasedValue v).quantities, q.isFinite = true)
    (legible : ∀ v ∈ given, v.time.Legible) :
    ∃ rows, s.flatten = .ok rows ∧ List.Forall₂ (s.HasRow registry) s.entries rows ∧
      ((rows.mapM fun row => Registry.decodeEntity .timeBasedValue row.toRecord .empty)
        registry).1 = .ok (s.entries.map .timeBasedValue) ∧
      checked s.uuid s.entries = .ok s := by
  have each : ∀ v ∈ s.entries, ∃ row, v.flattenIn (some s.uuid) = .ok row ∧
      s.HasRow registry v row := by
    intro v mem
    have mem' : v ∈ given := (perm_entries h).mem_iff.1 mem
    exact exists_hasRow hr h mem (built v mem') (finite v mem') (legible v mem')
  obtain ⟨rows, written⟩ := Outcome.exists_mapM_iff.2 fun v mem =>
    (each v mem).imp fun _ => And.left
  have held : List.Forall₂ (s.HasRow registry) s.entries rows := by
    refine ((List.forall₂_and_left _ _).2 ⟨each, Outcome.mapM_eq_ok_iff.1 written⟩).imp ?_
    rintro v row ⟨⟨row', here, holds⟩, found⟩
    cases here.symm.trans found
    exact holds
  have plain : (rows.mapM fun row => plainEntity policy .timeBasedValue row.toRecord .empty) =
      .ok (s.entries.map .timeBasedValue) := by
    rw [Outcome.mapM_eq_ok_iff, List.forall₂_map_right_iff]
    refine List.Forall₂.flip (held.imp fun v row holds => ?_)
    have same := ComesTo.eq (yields_decodeEntity .timeBasedValue row.toRecord .empty) hr
    exact same.symm.trans (holds.decoded row.toRecord fun _ _ => rfl)
  refine ⟨rows, written, held, ?_, checked_again h⟩
  rw [ComesTo.eq (Yields.mapM rows fun row _ =>
    yields_decodeEntity .timeBasedValue row.toRecord .empty) hr]
  exact plain

/-- Weather at an instant. -/
def weatherAt (uuid : Uuid) (time : Timestamp) : TimeBasedValue where
  uuid := uuid
  time := time
  payload := .weather
    { coordinate := ⟨7.4116482, -51.4843281⟩
      irradiance := ⟨⟨282.5, .wattPerSquareMetre⟩, ⟨0.0, .wattPerSquareMetre⟩⟩
      temperature := ⟨⟨275.15, .kelvin⟩⟩
      wind := ⟨⟨270.0, .degree⟩, ⟨1.1, .metrePerSecond⟩⟩ }

theorem built_weatherAt (uuid : Uuid) (time : Timestamp) :
    (Entity.timeBasedValue (weatherAt uuid time)).Built := by
  refine .timeBasedValue ?_ ?_ ?_ ?_ (Payload.checked_eq_ok.2 (.weather _))
  · rintro w ⟨⟩
    exact ⟨7.4116482, -51.4843281, if_pos (by decide)⟩
  · rintro w ⟨⟩
    exact .irradiance (Irradiance.checked_eq_ok.2
      ⟨Quantity.convert_self rfl, Quantity.convert_self rfl, by decide, by decide⟩)
  · rintro w ⟨⟩
    exact .temperature (Temperature.checked_eq_ok.2 ⟨Quantity.convert_self rfl, by decide⟩)
  · rintro w ⟨⟩
    exact .wind (Wind.checked_eq_ok.2
      ⟨Quantity.convert_self rfl, Quantity.convert_self rfl, by decide⟩)

/-- A value in a leap second, another one of that second under another offset, and one of the day
before. -/
def leapWeather : List TimeBasedValue :=
  [weatherAt ⟨0x3d2a1b4c000340008000000000000003#128⟩ ⟨1483228799, 1500000000, 5400⟩,
    weatherAt ⟨0x3d2a1b4c000340008000000000000004#128⟩ ⟨1483228799, 1500000000, -3600⟩,
    weatherAt ⟨0x3d2a1b4c000340008000000000000005#128⟩ ⟨1483142400, 0, 0⟩]

/-- The earliest value comes first, and those in the leap second keep their order. -/
theorem mergeSort_leapWeather :
    leapWeather.mergeSort (fun a b => a.time.isAtMost b.time) =
      [leapWeather[2], leapWeather[0], leapWeather[1]] := by
  simp [List.mergeSort, leapWeather, weatherAt, Timestamp.isAtMost, Timestamp.isBefore]

/-- A series of weather in which two values share an instant is read back. -/
theorem rebuilt_of_flatten_leapWeather :
    ∃ s rows, checked ⟨0x3d2a1b4c000440008000000000000006#128⟩ leapWeather = .ok s ∧
      s.entries = [leapWeather[2], leapWeather[0], leapWeather[1]] ∧
      s.flatten = .ok rows ∧ List.Forall₂ (s.HasRow strictRegistry) s.entries rows ∧
      ((rows.mapM fun row => Registry.decodeEntity .timeBasedValue row.toRecord .empty)
        strictRegistry).1 = .ok (s.entries.map .timeBasedValue) ∧
      checked s.uuid s.entries = .ok s := by
  have all {P : TimeBasedValue → Prop} (each : ∀ uuid time, P (weatherAt uuid time)) :
      ∀ v ∈ leapWeather, P v := by
    simp [leapWeather, each]
  have made : checked ⟨0x3d2a1b4c000440008000000000000006#128⟩ leapWeather = .ok
      ⟨⟨0x3d2a1b4c000440008000000000000006#128⟩,
        [leapWeather[2], leapWeather[0], leapWeather[1]]⟩ := by
    refine checked_eq_ok_iff.2 ⟨?_, by rw [mergeSort_leapWeather]⟩
    exact all fun _ _ => all fun _ _ => rfl
  have legible : ∀ v ∈ leapWeather, v.time.Legible := by
    simp only [leapWeather, List.forall_mem_cons, List.not_mem_nil, false_implies, implies_true,
      and_true]
    exact ⟨⟨⟨⟨by decide, by decide⟩, by decide, by decide⟩, by decide⟩,
      ⟨⟨⟨by decide, by decide⟩, by decide, by decide⟩, by decide⟩,
      ⟨⟨⟨by decide, by decide⟩, by decide, by decide⟩, by decide⟩⟩
  have finite : ∀ v ∈ leapWeather, ∀ q ∈ (Entity.timeBasedValue v).quantities,
      q.isFinite = true := by
    refine all fun uuid time => ?_
    -- the instant and the uuid are no quantities
    have same : (Entity.timeBasedValue (weatherAt uuid time)).quantities =
        (Entity.timeBasedValue (weatherAt ⟨0⟩ ⟨0, 0, 0⟩)).quantities := rfl
    rw [same]
    decide
  obtain ⟨rows, written, held, decoded, again⟩ := rebuilt_of_flatten isBuiltin_strictRegistry made
    (all built_weatherAt) finite legible
  exact ⟨_, rows, made, rfl, written, held, decoded, again⟩

/-- A price at a fraction that goes on for more than the fifth second. -/
def stretchedPrice : TimeBasedValue where
  uuid := ⟨0x3d2a1b4c000240008000000000000002#128⟩
  time := .stretched
  payload := .energyPrice ⟨42.5, .euroPerMegawattHour⟩

/-- A series of the price is rebuilt with another instant. -/
theorem not_rebuilt_of_flatten_stretched :
    (Entity.timeBasedValue stretchedPrice).Built ∧
      (∀ q ∈ (Entity.timeBasedValue stretchedPrice).quantities, q.isFinite = true) ∧
      stretchedPrice.time.Printable ∧
      ∃ s rows es, checked ⟨0x3d2a1b4c000340008000000000000003#128⟩ [stretchedPrice] = .ok s ∧
        s.flatten = .ok rows ∧
        ((rows.mapM fun row => Registry.decodeEntity .timeBasedValue row.toRecord .empty)
          strictRegistry).1 = .ok es ∧
        (es == s.entries.map Entity.timeBasedValue) = false := by
  have made : checked ⟨0x3d2a1b4c000340008000000000000003#128⟩ [stretchedPrice] =
      .ok ⟨⟨0x3d2a1b4c000340008000000000000003#128⟩, [stretchedPrice]⟩ := by
    simp [checked]
  have evaluated : (do
      let rows ← flatten ⟨⟨0x3d2a1b4c000340008000000000000003#128⟩, [stretchedPrice]⟩
      ((rows.mapM fun row => Registry.decodeEntity .timeBasedValue row.toRecord .empty)
        strictRegistry).1 : Except Failure (List Entity)).toOption.any
          (fun es => !(es == [Entity.timeBasedValue stretchedPrice])) = true := by
    decide +kernel
  obtain ⟨es, run, other⟩ := Outcome.exists_of_any evaluated
  obtain ⟨rows, written, decoded⟩ := Outcome.bind_eq_ok.1 run
  have built : (Entity.timeBasedValue stretchedPrice).Built := by
    refine .timeBasedValue ?_ ?_ ?_ ?_
      (Payload.checked_eq_ok.2 (.energyPrice (Quantity.convert_self rfl)))
    all_goals
      intro w weather
      cases weather
  exact ⟨built, by decide, Timestamp.printable_stretched, _, rows, es, made, written, decoded,
    by simpa using other⟩

end TimeSeries

end GridRecords
