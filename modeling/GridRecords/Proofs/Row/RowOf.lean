/-
# Records that are rows of entities

`FieldRecord.RowOf` says of a record that it is the row of an entity: it holds the text of each
column and nothing else.  What is written for an entity is such a record (`rowOf_toRecord`), and
the part of it that belongs to an embedded entity is a row of that entity (`RowOf.restrict`).
-/
import GridRecords.Proofs.Row.Units

namespace GridRecords

/-- The text of a value in its column.  A quantity is in the unit of its field already. -/
def Value.rowText? : Value → Option String
  | .null => some ""
  | .text s => some s
  | .bool b => some (toString b)
  | .int n => some (toString n)
  | .uuid u => some u.text
  | .timestamp t => some t.text
  | .geoPoint p => some ((p.map GeoPoint.text).getD "")
  | .quantity q => amountText? q.value
  | .entity e => if e.isUnassigned then some "" else e.uuid?.map Uuid.text

/-- A cell holds the text of its value. -/
theorem rowText?_of_cellText {c : Cell} (unit : c.UnitHeld) {text : String}
    (h : cellText c.kind c.field c.value = .ok text) : c.value.rowText? = some text := by
  obtain ⟨kind, field, value⟩ := c
  cases value with
  | null => cases h; rfl
  | quantity q => exact (cellText_quantity (unit q rfl)).1 h
  | entity e =>
      unfold cellText at h
      unfold Value.rowText?
      by_cases placeholder : e.isUnassigned = true
      · simp only [if_pos placeholder] at h ⊢
        cases h
        rfl
      · simp only [if_neg placeholder] at h ⊢
        cases known : e.uuid? with
        | none =>
            rw [known] at h
            cases h
        | some uuid =>
            rw [known] at h
            cases h
            rfl
  | text s | bool b | int n | uuid u | timestamp t | geoPoint p => cases h; rfl

/-- A record is the row of an entity. -/
structure FieldRecord.RowOf (r : FieldRecord) (e : Entity) : Prop where
  held : ∀ c ∈ e.columns, ∃ text, c.2.rowText? = some text ∧ r.get? c.1 = some text
  other : ∀ name, name ∉ e.columnNames → r.get? name = none

/-- The text of a column is written under its name. -/
theorem Entity.exists_rowText? {e : Entity} (units : e.UnitsHeld) {flat : FlatRecord}
    (h : e.flatten = .ok flat) {column : String × Value} (mem : column ∈ e.columns) :
    ∃ text, column.2.rowText? = some text ∧ flat.get? column.1 = some text := by
  rw [← map_cells] at mem
  obtain ⟨c, cell, rfl⟩ := List.mem_map.1 mem
  obtain ⟨text, written, found⟩ := (get?_flatten h).1 c cell
  exact ⟨text, rowText?_of_cellText (units c cell) written, found⟩

/-- **What is written for an entity is a row of it.** -/
theorem Entity.rowOf_toRecord {e : Entity} (units : e.UnitsHeld) {flat : FlatRecord}
    (h : e.flatten = .ok flat) : flat.toRecord.RowOf e := by
  refine ⟨fun column mem => ?_, fun name absent => ?_⟩
  · obtain ⟨text, held, found⟩ := exists_rowText? units h mem
    exact ⟨text, held, (get?_toRecord h _).trans found⟩
  · exact (get?_toRecord h name).trans ((get?_flatten h).2 name absent)

/-- **The part of a row that belongs to an embedded entity is a row of that entity.** -/
theorem FieldRecord.RowOf.restrict {r : FieldRecord} {e : Entity} (row : r.RowOf e)
    {x : String × Entity} (part : x ∈ e.embedded) :
    (r.restrict x.2.columnNames).RowOf x.2 := by
  constructor
  · intro c mem
    have column : c ∈ e.columns := Entity.mem_columns_iff.2 (.inr ⟨x, part, mem⟩)
    obtain ⟨text, written, found⟩ := row.held c column
    refine ⟨text, written, ?_⟩
    have named : c.1 ∈ x.2.columnNames := by
      rw [← Entity.map_fst_columns]
      exact List.mem_map_of_mem mem
    rw [FieldRecord.get?_restrict, if_pos named]
    exact found
  · intro name absent
    rw [FieldRecord.get?_restrict, if_neg absent]

end GridRecords
