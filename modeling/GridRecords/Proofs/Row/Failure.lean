/-
# Which rows fail

The constructors keep quantities in the units in which they are written, and the rows of
time-based values get from each source what they ask for.  So all that can keep an entity from being
written is a quantity that is not finite, and the first one is reported (`flatten_eq_error_iff`).

What is written has the columns of the entity, `uuid` first and the others by name
(`header_of_flatten`).  They are the fields of the signature that is selected for the row.
-/
import GridRecords.Proofs.Row.Series
import GridRecords.Proofs.Schema.Rows

namespace GridRecords

variable {e : Entity} {row : FlatRecord}

/-! ## Cells that fail -/

/-- Whether a value is anything but a quantity without a finite amount. -/
def Value.isFinite : Value → Bool
  | .quantity q => q.isFinite
  | _ => true

/-- The kind that a failure to write a column names: that of the part of the weather that the column
is about, or else that of the entity. -/
def Entity.ownerOf (e : Entity) (field : String) : EntityKind :=
  match e with
  | .timeBasedValue _ =>
    ((e.embedded.find? fun x => x.2.columnNames.contains field).map (·.2.kind)).getD e.kind
  | _ => e.kind

/-- The cells are the columns with their owners. -/
theorem Entity.cells_eq (e : Entity) :
    e.cells = e.columns.map fun (field, value) => ⟨e.ownerOf field, field, value⟩ := by
  cases e
  case timeBasedValue v =>
    obtain ⟨uuid, time, payload⟩ := v
    cases payload <;> rfl
  all_goals rfl

/-- **A cell fails if it holds a quantity that is not finite**, and says so. -/
theorem Entity.write_eq (units : e.UnitsHeld) {c : Cell} (mem : c ∈ e.cells) :
    (∃ text, c.value.isFinite = true ∧ c.write = .ok text) ∨
      ∃ q, c.value = .quantity q ∧ q.isFinite = false ∧
        c.write = .error (.flatten c.kind c.field q.text "not a finite number") := by
  have column : (c.field, c.value) ∈ e.columns := by
    rw [← map_cells]
    exact List.mem_map_of_mem mem
  by_cases quantity : ∃ q, c.value = .quantity q
  · obtain ⟨q, value⟩ := quantity
    have text := cellText_quantity_eq (units c mem q value)
    have finite : (∃ text, amountText? q.value = some text) ↔ q.isFinite = true :=
      Decimal.exists_finiteText?_iff _ _
    unfold Cell.write
    rw [value, text]
    cases amount : amountText? q.value with
    | some written => exact .inl ⟨_, finite.1 ⟨written, amount⟩, rfl⟩
    | none =>
        refine .inr ⟨q, rfl, ?_, rfl⟩
        rw [← Bool.not_eq_true, ← finite]
        rintro ⟨written, some⟩
        cases amount.symm.trans some
  · obtain ⟨text, written⟩ := exists_cellText column fun q value => quantity ⟨q, value⟩
    refine .inl ⟨(c.field, text), ?_, Cell.write_eq_ok.2 ⟨rfl, written⟩⟩
    cases value : c.value with
    | quantity q => exact absurd ⟨q, value⟩ quantity
    | _ => rfl

/-- **An entity fails as its first column that holds a quantity that is not finite.** -/
theorem Entity.flatten_eq_error_iff (units : e.UnitsHeld) {f : Failure} :
    e.flatten = .error f ↔ ∃ field q,
      e.columns.find? (fun column => !column.2.isFinite) = some (field, .quantity q) ∧
        f = .flatten (e.ownerOf field) field q.text "not a finite number" := by
  have writes : ∀ c ∈ e.cells, (!c.write.isOk) = !c.value.isFinite := by
    intro c mem
    rcases write_eq units mem with ⟨text, finite, written⟩ | ⟨q, value, infinite, failed⟩
    · rw [finite, written]
      rfl
    · rw [failed, value]
      exact (congrArg not infinite).symm
  have first : e.cells.find? (fun c => !c.value.isFinite) =
      (e.columns.find? fun column => !column.2.isFinite).map fun (field, value) =>
        ⟨e.ownerOf field, field, value⟩ := by
    rw [cells_eq, List.find?_map]
    rfl
  rw [flatten_eq, Outcome.map_eq_error, Outcome.mapM_eq_error_iff, List.find?_congr writes, first]
  cases found : e.columns.find? fun column => !column.2.isFinite with
  | none => simp
  | some column =>
      obtain ⟨field, value⟩ := column
      have cell : ⟨e.ownerOf field, field, value⟩ ∈ e.cells := by
        rw [cells_eq]
        exact List.mem_map_of_mem (List.mem_of_find?_eq_some found)
      have passes := List.find?_some found
      have infinite : value.isFinite = false := by simpa using passes
      rcases write_eq units cell with ⟨text, finite, -⟩ | ⟨q, same, -, failed⟩
      · cases infinite.symm.trans finite
      · have same : value = .quantity q := same
        subst same
        simp [failed, eq_comm]

/-! ## The columns of what is written -/

theorem Entity.uuid_mem_columnNames (e : Entity) :
    "uuid" ∈ e.columnNames ↔ e.kind.isIdentified = true := by
  have all : ∀ shape ∈ columnShapes,
      "uuid" ∈ shape.1.columnNames shape.2 ↔ shape.1.isIdentified = true := by
    decide
  exact all _ e.mem_columnShapes

/-- **The columns of a row are those of its entity**, `uuid` first and the others by name. -/
theorem Entity.header_of_flatten (h : e.flatten = .ok row) :
    row.header = (if e.kind.isIdentified then ["uuid"] else []) ++
      (sortedNames e.columnNames).filter (· != "uuid") := by
  obtain ⟨texts, writes, rfl⟩ := flatten_eq_ok_iff.1 h
  have names := map_fst_texts writes
  have leads : (Table.ofList texts).contains FlatRecord.leading = e.kind.isIdentified := by
    apply Bool.eq_iff_iff.2
    rw [Table.contains_iff, Table.keys_ofList, mem_sortedNames, names]
    exact e.uuid_mem_columnNames
  rw [FlatRecord.header_ofTable, leads, Table.keys_ofList, names]
  rfl

theorem Entity.mem_header (h : e.flatten = .ok row) {name : String} :
    name ∈ row.header ↔ name ∈ e.columnNames := by
  rw [header_of_flatten h, List.mem_append, List.mem_filter, mem_sortedNames]
  by_cases leading : name = "uuid"
  · subst leading
    rw [e.uuid_mem_columnNames]
    simp
  · simp [leading]

/-- The columns of a row are the fields of the signature that is selected for it. -/
theorem Entity.select_toRecord (units : e.UnitsHeld) (h : e.flatten = .ok row) :
    ∃ signature, (Schema.builtin e.kind).select row.toRecord .empty = .ok signature ∧
      (Schema.builtin e.kind).fieldsOf signature = sortedNames e.columnNames ∧
      ∀ v, e = .timeBasedValue v → signature = Schema.familySignature v.family := by
  have unknown : ∀ name ∈ (Table.empty : Context).keys, name ∈ e.columnNames :=
    fun name mem => absurd mem List.not_mem_nil
  obtain ⟨signature, selected, fields, -, family⟩ :=
    Schema.select_of_rowOf (rowOf_toRecord units h) unknown
  exact ⟨signature, selected, fields, family⟩

/-! ## The outcome of flattening -/

/-- **When an entity is written, and what is written.**  An entity that was built can be written
exactly if all its quantities are finite.  Else its first column with a quantity that is not finite
is reported, with the kind that owns it, and nothing else is.  What is written has the column `uuid`
first if the kind is identified, and then the other columns in order and each once.  Its columns are
the fields of one signature of the kind and of no other one, which is selected for the row; for a
time-based value it is that of its family. -/
theorem flatten_outcome (built : e.Built) :
    ((∃ row, e.flatten = .ok row) ↔ ∀ q ∈ e.quantities, q.isFinite = true) ∧
    (∀ f, e.flatten = .error f ↔ ∃ field q,
      e.columns.find? (fun column => !column.2.isFinite) = some (field, .quantity q) ∧
        f = .flatten (e.ownerOf field) field q.text "not a finite number") ∧
    ∀ row, e.flatten = .ok row →
      (∃ others, row.header = (if e.kind.isIdentified then "uuid" :: others else others) ∧
        "uuid" ∉ others ∧ others.Pairwise (· < ·)) ∧
      ∃ signature ∈ (Schema.builtin e.kind).signatures,
        (∀ name, name ∈ row.header ↔ name ∈ (Schema.builtin e.kind).fieldsOf signature) ∧
        (∀ other ∈ (Schema.builtin e.kind).signatures,
          (∀ name, name ∈ row.header ↔ name ∈ (Schema.builtin e.kind).fieldsOf other) →
            other = signature) ∧
        (Schema.builtin e.kind).select row.toRecord .empty = .ok signature ∧
        ∀ v, e = .timeBasedValue v → signature = Schema.familySignature v.family := by
  have units := built.unitsHeld
  refine ⟨Entity.exists_flatten_iff units, fun f => Entity.flatten_eq_error_iff units, ?_⟩
  intro row written
  constructor
  · refine ⟨(sortedNames e.columnNames).filter (· != "uuid"), ?_, by simp,
      (pairwise_sortedNames _).filter _⟩
    rw [Entity.header_of_flatten written]
    split <;> rfl
  · obtain ⟨signature, selected, fields, family⟩ := Entity.select_toRecord units written
    have mem := mem_signatures_of_select selected
    have columns (name : String) :
        name ∈ row.header ↔ name ∈ (Schema.builtin e.kind).fieldsOf signature := by
      rw [Entity.mem_header written, fields, mem_sortedNames]
    refine ⟨signature, mem, columns, ?_, selected, family⟩
    intro other mem' same
    -- a schema has no two signatures with the same fields
    have apart := Schema.nodup_fieldsOf (Registry.validate_builtin.{0} e.kind)
    apply List.inj_on_of_nodup_map apart mem' mem
    exact (pairwise_sortedNames _).eq_of_mem_iff (pairwise_sortedNames _)
      fun name => (same name).symm.trans (columns name)

/-- Weather with a wind from no direction. -/
def calm : TimeBasedValue where
  uuid := ⟨0x3d2a1b4c000340008000000000000003#128⟩
  time := ⟨1483142400, 0, 0⟩
  payload := .weather
    { coordinate := ⟨7.4116482, -51.4843281⟩
      irradiance := ⟨⟨282.5, .wattPerSquareMetre⟩, ⟨0.0, .wattPerSquareMetre⟩⟩
      temperature := ⟨⟨275.15, .kelvin⟩⟩
      wind := ⟨⟨0.0 / 0.0, .degree⟩, ⟨0.0, .metrePerSecond⟩⟩ }

theorem built_calm : (Entity.timeBasedValue calm).Built := by
  refine .timeBasedValue ?_ ?_ ?_ ?_ (Payload.checked_eq_ok.2 (.weather _))
  · rintro w ⟨⟩
    exact ⟨7.4116482, -51.4843281, if_pos (by decide)⟩
  · rintro w ⟨⟩
    exact .irradiance (Irradiance.checked_eq_ok.2
      ⟨Quantity.convert_self rfl, Quantity.convert_self rfl, by decide, by decide⟩)
  · rintro w ⟨⟩
    exact .temperature (Temperature.checked_eq_ok.2 ⟨Quantity.convert_self rfl, by decide⟩)
  · rintro w ⟨⟩
    exact .wind (Wind.checked_eq_ok.2
      ⟨Quantity.convert_self rfl, Quantity.convert_self rfl, by decide⟩)

/-- Weather whose wind has no direction fails as its wind does. -/
theorem flatten_outcome_calm :
    (Entity.timeBasedValue calm).flatten = .error
      (.flatten .wind "winddirection" (Quantity.text ⟨0.0 / 0.0, .degree⟩)
        "not a finite number") := by
  obtain ⟨-, fails, -⟩ := flatten_outcome built_calm
  refine (fails _).2 ⟨"winddirection", ⟨0.0 / 0.0, .degree⟩, ?_, rfl⟩
  refine List.find?_eq_some_iff_append.2 ⟨by decide,
    (Entity.timeBasedValue calm).columns.take 6, (Entity.timeBasedValue calm).columns.drop 7,
    rfl, ?_⟩
  have finite : ((Entity.timeBasedValue calm).columns.take 6).all (·.2.isFinite) = true := by
    decide
  intro column mem
  rw [List.all_eq_true.1 finite column mem]
  rfl

end GridRecords
