/-
# Flattening cell by cell

`flatten_eq_ok_iff` says that an entity is flattened by writing each of its cells, and
`get?_flatten` that the row holds the text of each cell under the name of its column and nothing
else.  So whether an entity can be written is decided cell by cell, and
`exists_flatten_iff` decides it for entities whose quantities are in their output units: all of
them must be finite.
-/
import GridRecords.Proofs.Decimal.Unpack
import GridRecords.Proofs.Model.Checked
import GridRecords.Proofs.Row.Cells

namespace GridRecords

/-! ## Writing cells -/

theorem Cell.write_eq_ok {c : Cell} {text : String × String} :
    c.write = .ok text ↔ text.1 = c.field ∧ cellText c.kind c.field c.value = .ok text.2 := by
  unfold write
  rw [Outcome.map_eq_ok]
  constructor
  · rintro ⟨written, h, rfl⟩
    exact ⟨rfl, h⟩
  · rintro ⟨name, h⟩
    exact ⟨text.2, h, by rw [← name]⟩

/-- The texts of cells stand under the names of their columns. -/
theorem map_fst_of_write {cells : List Cell} {texts : List (String × String)}
    (h : cells.mapM Cell.write = .ok texts) : texts.map Prod.fst = cells.map Cell.field := by
  induction cells generalizing texts with
  | nil => cases h; rfl
  | cons c rest ih =>
      rw [List.mapM_cons] at h
      simp only [Outcome.bind_eq_ok, Outcome.pure_eq_ok] at h
      obtain ⟨text, one, others, more, rfl⟩ := h
      rw [List.map_cons, List.map_cons, ih more, (Cell.write_eq_ok.1 one).1]

/-- A text of a row is that of a cell. -/
theorem mem_of_write {cells : List Cell} {texts : List (String × String)}
    (h : cells.mapM Cell.write = .ok texts) {c : Cell} (mem : c ∈ cells) :
    ∃ text, cellText c.kind c.field c.value = .ok text ∧ (c.field, text) ∈ texts := by
  induction cells generalizing texts with
  | nil => cases mem
  | cons d rest ih =>
      rw [List.mapM_cons] at h
      simp only [Outcome.bind_eq_ok, Outcome.pure_eq_ok] at h
      obtain ⟨⟨name, text⟩, one, others, more, rfl⟩ := h
      rcases List.mem_cons.1 mem with rfl | mem
      · obtain ⟨named, written⟩ := Cell.write_eq_ok.1 one
        refine ⟨text, written, ?_⟩
        rw [← named]
        exact List.mem_cons_self
      · obtain ⟨text, written, entry⟩ := ih more mem
        exact ⟨text, written, List.mem_cons_of_mem _ entry⟩

theorem cellTexts_eq (kind : EntityKind) (columns : Columns) :
    cellTexts kind columns = (columns.cells kind).mapM Cell.write := by
  unfold cellTexts Columns.cells
  rw [List.mapM_map]
  congr 1

theorem mapM_write_append {cells more : List Cell} {texts : List (String × String)} :
    (cells ++ more).mapM Cell.write = .ok texts ↔
      ∃ first, cells.mapM Cell.write = .ok first ∧
        ∃ second, more.mapM Cell.write = .ok second ∧ first ++ second = texts := by
  rw [List.mapM_append]
  simp only [Outcome.bind_eq_ok, Outcome.pure_eq_ok]

/-- The texts of columns have the names of the columns. -/
theorem map_fst_of_write_cells {kind : EntityKind} {columns : Columns}
    {texts : List (String × String)} (h : (columns.cells kind).mapM Cell.write = .ok texts) :
    texts.map Prod.fst = columns.map Prod.fst := by
  rw [map_fst_of_write h]
  unfold Columns.cells
  rw [List.map_map]
  rfl

/-! ## Rows from several sources -/

/-- Steps that each add the text of a column add the texts of all cells, to a row that has none of
the columns yet. -/
theorem foldlM_insert_eq {kind : EntityKind}
    {step : Table String → String × Value → Except Failure (Table String)}
    (adds : ∀ row field value, row.contains field = false →
      step row (field, value) = row.insert field <$> cellText kind field value)
    {columns : Columns} {row : Table String} (nodup : (columns.map Prod.fst).Nodup)
    (fresh : ∀ name ∈ columns.map Prod.fst, row.get? name = none) :
    columns.foldlM step row = row.insertAll <$> (columns.cells kind).mapM Cell.write := by
  induction columns generalizing row with
  | nil => rfl
  | cons column rest ih =>
      obtain ⟨field, value⟩ := column
      rw [List.map_cons, List.nodup_cons] at nodup
      have free : row.contains field = false := by
        unfold Table.contains
        rw [fresh field List.mem_cons_self]
        rfl
      have fresh' (written : String) : ∀ name ∈ rest.map Prod.fst,
          (row.insert field written).get? name = none := by
        intro name mem
        have other : name ≠ field := by
          rintro rfl
          exact nodup.1 mem
        rw [Table.get?_insert, if_neg other]
        exact fresh name (List.mem_cons_of_mem _ mem)
      have head : Columns.cells ((field, value) :: rest) kind =
          ⟨kind, field, value⟩ :: Columns.cells rest kind := rfl
      have write : Cell.write ⟨kind, field, value⟩ = Prod.mk field <$> cellText kind field value :=
        rfl
      rw [List.foldlM_cons, adds row field value free, head, List.mapM_cons, write]
      cases cellText kind field value with
      | error f => rfl
      | ok written =>
          show rest.foldlM step (row.insert field written) = _
          rw [ih nodup.2 (fresh' written)]
          cases (Columns.cells rest kind).mapM Cell.write <;> rfl

/-- Adding a source writes its cells, if it supplies the columns that it is asked for. -/
theorem addSource_eq {source : RowSource} {expected : List String} {columns : Columns}
    {row : Table String} (asked : sortedNames (columns.map Prod.fst) = sortedNames expected)
    (nodup : (columns.map Prod.fst).Nodup)
    (fresh : ∀ name ∈ columns.map Prod.fst, row.get? name = none) :
    TimeBasedValue.addSource row source expected columns =
      row.insertAll <$> (columns.cells source.unitsFrom).mapM Cell.write := by
  have same : ¬ sortedNames (columns.map (·.1)) ≠ sortedNames expected := fun ne => ne asked
  unfold TimeBasedValue.addSource
  simp only [if_neg same]
  refine foldlM_insert_eq (fun row field value free => ?_) nodup fresh
  simp only [free, Bool.false_eq_true, ↓reduceIte]
  cases cellText source.unitsFrom field value <;> rfl

theorem get?_insertAll_of_not_mem {row : Table String} {texts : List (String × String)}
    {name : String} (h : name ∉ texts.map Prod.fst) :
    (row.insertAll texts).get? name = row.get? name := by
  have none : lookupEntry name texts.reverse = none := by
    rw [lookupEntry_eq_none_iff, List.map_reverse, List.mem_reverse]
    exact h
  rw [Table.get?_insertAll, none, Option.none_or]

theorem Table.insertAll_append (row : Table String) (first second : List (String × String)) :
    row.insertAll (first ++ second) = (row.insertAll first).insertAll second :=
  List.foldl_append

/-- Sources with different columns fill a row one after the other. -/
theorem foldlM_addSource_eq {supply : RowSource → Columns}
    {parts : List (RowSource × List String)} {row : Table String}
    (asked : ∀ part ∈ parts,
      sortedNames ((supply part.1).map Prod.fst) = sortedNames part.2)
    (nodup : (parts.flatMap fun part => (supply part.1).map Prod.fst).Nodup)
    (fresh : ∀ name ∈ parts.flatMap fun part => (supply part.1).map Prod.fst,
      row.get? name = none) :
    parts.foldlM (fun row (source, expected) =>
        TimeBasedValue.addSource row source expected (supply source)) row =
      row.insertAll <$> (parts.flatMap fun part =>
        (supply part.1).cells part.1.unitsFrom).mapM Cell.write := by
  induction parts generalizing row with
  | nil => rfl
  | cons part rest ih =>
      rw [List.flatMap_cons] at nodup fresh
      obtain ⟨nodupHere, nodupRest, apart⟩ := List.nodup_append'.1 nodup
      have here : TimeBasedValue.addSource row part.1 part.2 (supply part.1) =
          row.insertAll <$> ((supply part.1).cells part.1.unitsFrom).mapM Cell.write :=
        addSource_eq (asked part List.mem_cons_self) nodupHere
          fun name mem => fresh name (List.mem_append_left _ mem)
      -- the columns of this source are none of those of the others
      have fresh' {texts : List (String × String)}
          (h : ((supply part.1).cells part.1.unitsFrom).mapM Cell.write = .ok texts) :
          ∀ name ∈ rest.flatMap fun part => (supply part.1).map Prod.fst,
            (row.insertAll texts).get? name = none := by
        intro name mem
        have names := map_fst_of_write_cells h
        rw [get?_insertAll_of_not_mem (names ▸ fun here => apart here mem)]
        exact fresh name (List.mem_append_right _ mem)
      rw [List.foldlM_cons, List.flatMap_cons, List.mapM_append]
      show (TimeBasedValue.addSource row part.1 part.2 (supply part.1) >>= fun next =>
        rest.foldlM _ next) = _
      rw [here]
      cases first : ((supply part.1).cells part.1.unitsFrom).mapM Cell.write with
      | error f => rfl
      | ok texts =>
          show rest.foldlM _ (row.insertAll texts) = _
          rw [ih (fun p mem => asked p (List.mem_cons_of_mem _ mem)) nodupRest (fresh' first)]
          cases (rest.flatMap fun part =>
              (supply part.1).cells part.1.unitsFrom).mapM Cell.write with
          | error f => rfl
          | ok others => exact congrArg Except.ok (Table.insertAll_append row texts others).symm

/-- The sources of a row. -/
theorem RecordFamily.mem_partition {family : RecordFamily} {withSeries : Bool}
    {part : RowSource × List String} (h : part ∈ family.partition withSeries) :
    (withSeries = true ∧ part = (.series, ["series"])) ∨
      part = (.entry, ["uuid", "time"]) ∨ part = (.value, family.payloadColumns) ∨
      (family = .weather ∧
        (part = (.irradiance, ["diffuseirradiance", "directirradiance"]) ∨
          part = (.temperature, ["temperature"]) ∨
          part = (.wind, ["winddirection", "windvelocity"]))) := by
  cases withSeries <;> cases family <;> simpa [partition] using h

/-- The cell for the series of a value, if it belongs to one. -/
def seriesCells (series : Option Uuid) : List Cell :=
  (series.map fun uuid => ⟨.timeBasedValue, "series", .uuid uuid⟩).toList

namespace TimeBasedValue

variable {series : Option Uuid}

/-- The sources of a value supply its cells, after that for its series. -/
theorem cells_partition (v : TimeBasedValue) (series : Option Uuid) :
    (v.family.partition series.isSome).flatMap (fun part =>
      (v.supplied series part.1).cells part.1.unitsFrom) =
        seriesCells series ++ Entity.cells (.timeBasedValue v) := by
  obtain ⟨uuid, time, payload⟩ := v
  cases series <;> cases payload <;> rfl

theorem map_fst_partition (v : TimeBasedValue) (series : Option Uuid) :
    ((v.family.partition series.isSome).flatMap fun part =>
      (v.supplied series part.1).map Prod.fst) =
        (series.map fun _ => "series").toList ++ Entity.columnNames (.timeBasedValue v) := by
  obtain ⟨uuid, time, payload⟩ := v
  cases series <;> cases payload <;> rfl

/-- The column for the series is none of the others. -/
theorem nodup_seriesNames (v : TimeBasedValue) (series : Option Uuid) :
    ((series.map fun _ => "series").toList ++ Entity.columnNames (.timeBasedValue v)).Nodup := by
  have other : ∀ family ∈ RecordFamily.all, "series" ∉ family.columnNames := by decide
  have nodup := Entity.nodup_columnNames (.timeBasedValue v)
  cases series with
  | none => exact nodup
  | some uuid => exact List.nodup_cons.2 ⟨other v.family v.family.mem_all, nodup⟩

/-- Each source supplies the columns that it is asked for. -/
theorem supplied_of_mem_partition {v : TimeBasedValue} {part : RowSource × List String}
    (mem : part ∈ v.family.partition series.isSome) :
    sortedNames ((v.supplied series part.1).map Prod.fst) = sortedNames part.2 := by
  obtain ⟨uuid, time, payload⟩ := v
  rcases RecordFamily.mem_partition mem with
    ⟨known, rfl⟩ | rfl | rfl | ⟨weather, rfl | rfl | rfl⟩
  · obtain ⟨uuid, rfl⟩ := Option.isSome_iff_exists.1 known
    rfl
  · rfl
  · -- the value may supply its columns in another order
    cases payload <;> apply sortedNames_congr <;> intro name <;>
      simp [supplied, Payload.columns, Weather.position, family, Payload.family,
        RecordFamily.payloadColumns, or_comm, or_left_comm]
  all_goals cases payload <;> cases weather; rfl

/-- **A value is flattened by writing its cells, after that for its series.** -/
theorem flattenIn_eq (v : TimeBasedValue) (series : Option Uuid) :
    v.flattenIn series = (fun texts => .ofTable (.ofList texts)) <$>
      (seriesCells series ++ Entity.cells (.timeBasedValue v)).mapM Cell.write := by
  have nodup : ((v.family.partition series.isSome).flatMap fun part =>
      (v.supplied series part.1).map Prod.fst).Nodup := by
    rw [v.map_fst_partition]
    exact v.nodup_seriesNames series
  have fold : (v.family.partition series.isSome).foldlM (fun row (source, expected) =>
        TimeBasedValue.addSource row source expected (v.supplied series source)) Table.empty =
      Table.insertAll Table.empty <$>
        (seriesCells series ++ Entity.cells (.timeBasedValue v)).mapM Cell.write := by
    rw [← v.cells_partition]
    exact foldlM_addSource_eq (fun _ => supplied_of_mem_partition) nodup fun _ _ => rfl
  unfold flattenIn
  simp only [fold]
  cases (seriesCells series ++ Entity.cells (.timeBasedValue v)).mapM Cell.write <;> rfl

theorem flattenIn_eq_ok_iff {v : TimeBasedValue} {flat : FlatRecord} :
    v.flattenIn series = .ok flat ↔
      ∃ texts, (seriesCells series ++ Entity.cells (.timeBasedValue v)).mapM Cell.write =
        .ok texts ∧ flat = .ofTable (.ofList texts) := by
  rw [flattenIn_eq, Outcome.map_eq_ok]
  simp only [eq_comm (b := flat)]

end TimeBasedValue

/-- **An entity is flattened by writing its cells one after the other.** -/
theorem Entity.flatten_eq (e : Entity) :
    e.flatten = (fun texts => .ofTable (.ofList texts)) <$> e.cells.mapM Cell.write := by
  have plain : (do return .ofTable (.ofList (← cellTexts e.kind e.columns)) :
        Except Failure FlatRecord) =
      (fun texts => .ofTable (.ofList texts)) <$>
        (Columns.cells e.columns e.kind).mapM Cell.write := by
    rw [cellTexts_eq]
    cases (Columns.cells e.columns e.kind).mapM Cell.write <;> rfl
  cases e
  case timeBasedValue v => exact v.flattenIn_eq none
  all_goals exact plain

theorem Entity.flatten_eq_ok_iff {e : Entity} {flat : FlatRecord} :
    e.flatten = .ok flat ↔
      ∃ texts, e.cells.mapM Cell.write = .ok texts ∧ flat = .ofTable (.ofList texts) := by
  rw [flatten_eq, Outcome.map_eq_ok]
  simp only [eq_comm (b := flat)]

/-- The texts of the cells of an entity stand under the names of its columns. -/
theorem Entity.map_fst_texts {e : Entity} {texts : List (String × String)}
    (writes : e.cells.mapM Cell.write = .ok texts) : texts.map Prod.fst = e.columnNames := by
  rw [map_fst_of_write writes, ← map_fst_columns, ← map_cells, List.map_map]
  rfl

/-! ## Reading a row back -/

theorem FieldRecord.ofList_eq {fields : List (String × String)}
    (lower : ∀ name ∈ fields.map Prod.fst, Text.lowercase name = name) :
    FieldRecord.ofList fields = ⟨Table.ofList fields⟩ := by
  unfold ofList Table.ofList Table.insertAll FieldRecord.empty
  generalize Table.empty = t
  induction fields generalizing t with
  | nil => rfl
  | cons field rest ih =>
      obtain ⟨name, raw⟩ := field
      rw [List.foldl_cons, List.foldl_cons]
      have same : FieldRecord.insert ⟨t⟩ name raw = ⟨t.insert name raw⟩ := by
        unfold FieldRecord.insert
        rw [lower name List.mem_cons_self]
      simp only [same]
      exact ih (fun n mem => lower n (List.mem_cons_of_mem _ mem)) _

namespace FlatRecord

variable {t : Table String} {name : String}

/-- The leading field of a row, if there is one. -/
theorem mem_leading (h : name ∈ ((t.get? leading).map (leading, ·)).toList.map Prod.fst) :
    name ∈ t.keys ∧ name = leading := by
  cases found : t.get? leading with
  | none =>
      rw [found] at h
      cases h
  | some text =>
      rw [found] at h
      have same : name = leading := List.mem_singleton.1 h
      subst same
      exact ⟨(t.mem_keys_iff leading).2 ⟨text, found⟩, rfl⟩

/-- The fields after the leading one. -/
theorem mem_others (h : name ∈ (t.filter (· != leading)).entries.map Prod.fst) :
    name ∈ t.keys ∧ name ≠ leading := by
  obtain ⟨entry, kept, rfl⟩ := List.mem_map.1 h
  obtain ⟨mem, other⟩ := List.mem_filter.1 kept
  exact ⟨List.mem_map_of_mem mem, by simpa using other⟩

theorem mem_keys_of_mem_ofTable (h : name ∈ (ofTable t).fields.map Prod.fst) : name ∈ t.keys := by
  unfold ofTable at h
  rw [List.map_append, List.mem_append] at h
  rcases h with first | other
  · exact (mem_leading first).1
  · exact (mem_others other).1

theorem nodup_ofTable (t : Table String) : ((ofTable t).fields.map Prod.fst).Nodup := by
  unfold ofTable
  rw [List.map_append, List.nodup_append']
  refine ⟨?_, ?_, fun n first other => (mem_others other).2 (mem_leading first).2⟩
  · cases t.get? leading <;> simp
  · exact ((t.filter (· != leading)).inOrder.imp fun lt eq =>
      absurd (eq ▸ lt) (String.lt_irrefl _)).map _ fun _ _ ne => ne

/-- Moving one field to the front changes no look-up. -/
theorem lookupEntry_ofTable (t : Table String) (name : String) :
    lookupEntry name (ofTable t).fields = t.get? name := by
  have others : lookupEntry name (t.filter (· != leading)).entries =
      if name != leading then t.get? name else none := Table.get?_filter _ t name
  unfold ofTable
  rw [lookupEntry_append, others]
  by_cases same : name = leading
  · subst same
    cases t.get? leading <;> simp [lookupEntry]
  · have other : (name != leading) = true := by simpa using same
    cases t.get? leading <;> simp [lookupEntry, same]

/-- A written row holds what its table holds. -/
theorem get?_toRecord (lower : ∀ name ∈ t.keys, Text.lowercase name = name) (name : String) :
    (ofTable t).toRecord.get? name = t.get? name := by
  have lower' : ∀ n ∈ (ofTable t).fields.map Prod.fst, Text.lowercase n = n := fun n mem =>
    lower n (mem_keys_of_mem_ofTable mem)
  unfold toRecord FieldRecord.get?
  rw [FieldRecord.ofList_eq lower', Table.get?_ofList (nodup_ofTable t), lookupEntry_ofTable]

end FlatRecord

/-- **The row of an entity holds the text of each of its cells, and nothing else.** -/
theorem Entity.get?_flatten {e : Entity} {flat : FlatRecord} (h : e.flatten = .ok flat) :
    (∀ c ∈ e.cells, ∃ text, cellText c.kind c.field c.value = .ok text ∧
        flat.get? c.field = some text) ∧
      ∀ name, name ∉ e.columnNames → flat.get? name = none := by
  obtain ⟨texts, writes, rfl⟩ := flatten_eq_ok_iff.1 h
  have names := map_fst_texts writes
  have nodup : (texts.map Prod.fst).Nodup := names ▸ e.nodup_columnNames
  have bound (name : String) :
      (FlatRecord.ofTable (Table.ofList texts)).get? name = lookupEntry name texts :=
    (FlatRecord.lookupEntry_ofTable _ name).trans (Table.get?_ofList nodup name)
  refine ⟨fun c mem => ?_, fun name absent => ?_⟩
  · obtain ⟨text, written, entry⟩ := mem_of_write writes mem
    refine ⟨text, written, ?_⟩
    rw [bound]
    exact lookupEntry_of_mem nodup entry
  · rw [bound, lookupEntry_eq_none_iff, names]
    exact absent

/-- What is written holds the same when it is read as a record. -/
theorem Entity.get?_toRecord {e : Entity} {flat : FlatRecord} (h : e.flatten = .ok flat)
    (name : String) : flat.toRecord.get? name = flat.get? name := by
  have other := (get?_flatten h).2
  obtain ⟨texts, -, rfl⟩ := flatten_eq_ok_iff.1 h
  have lower : ∀ name ∈ (Table.ofList texts).keys, Text.lowercase name = name := by
    intro name mem
    obtain ⟨text, found⟩ := (Table.mem_keys_iff _ _).1 mem
    refine e.lowercase_columnName (Decidable.byContradiction fun absent => ?_)
    have none := other name absent
    unfold FlatRecord.get? at none
    rw [FlatRecord.lookupEntry_ofTable, found] at none
    cases none
  rw [FlatRecord.get?_toRecord lower]
  exact (FlatRecord.lookupEntry_ofTable _ name).symm

/-! ## Which entities can be written -/

/-- An entity can be written when each of its cells can. -/
theorem Entity.exists_flatten_iff_cells (e : Entity) :
    (∃ flat, e.flatten = .ok flat) ↔
      ∀ c ∈ e.cells, ∃ text, cellText c.kind c.field c.value = .ok text := by
  have each (c : Cell) : (∃ text, c.write = .ok text) ↔
      ∃ text, cellText c.kind c.field c.value = .ok text := by
    constructor
    · rintro ⟨text, h⟩
      exact ⟨text.2, (Cell.write_eq_ok.1 h).2⟩
    · rintro ⟨text, h⟩
      exact ⟨(c.field, text), Cell.write_eq_ok.2 ⟨rfl, h⟩⟩
  simp only [flatten_eq_ok_iff]
  constructor
  · rintro ⟨_, texts, writes, rfl⟩ c mem
    exact (each c).1 (Outcome.ok_of_mapM writes c mem)
  · intro all
    obtain ⟨texts, writes⟩ := Outcome.exists_mapM_iff.2 fun c mem => (each c).2 (all c mem)
    exact ⟨_, texts, writes, rfl⟩

/-- The quantities that an entity writes into its row. -/
def Entity.quantities (e : Entity) : List Quantity :=
  e.columns.filterMap fun column =>
    match column.2 with
    | .quantity q => some q
    | _ => none

theorem Entity.mem_quantities {e : Entity} {q : Quantity} :
    q ∈ e.quantities ↔ ∃ field, (field, Value.quantity q) ∈ e.columns := by
  unfold quantities
  rw [List.mem_filterMap]
  constructor
  · rintro ⟨⟨field, value⟩, mem, eq⟩
    cases value <;> cases eq
    exact ⟨field, mem⟩
  · rintro ⟨field, mem⟩
    exact ⟨_, mem, rfl⟩

/-- Every quantity of an entity is in the unit in which its field is written. -/
def Entity.UnitsHeld (e : Entity) : Prop :=
  ∀ c ∈ e.cells, ∀ q, c.value = .quantity q → c.kind.outputUnit? c.field = some q.unit

/-- A quantity in the unit of its field is written as it is, if it has a text. -/
theorem cellText_quantity_eq {kind : EntityKind} {field : String} {q : Quantity}
    (unit : kind.outputUnit? field = some q.unit) :
    cellText kind field (.quantity q) =
      match amountText? q.value with
      | some text => .ok text
      | none => .error (.flatten kind field q.text "not a finite number") := by
  have same : normalize kind field q = .ok q := by
    unfold normalize
    rw [unit]
    simp only [Quantity.convert_self]
    rfl
  unfold cellText
  simp only [same]
  rfl

/-- A quantity in the unit of its field has a text when it is finite. -/
theorem cellText_quantity {kind : EntityKind} {field : String} {q : Quantity}
    (unit : kind.outputUnit? field = some q.unit) {text : String} :
    cellText kind field (.quantity q) = .ok text ↔ amountText? q.value = some text := by
  rw [cellText_quantity_eq unit]
  cases amountText? q.value <;> simp

/-- Whether a value is no reference to an entity without a uuid. -/
def Value.isReferable : Value → Bool
  | .entity e => e.uuid?.isSome
  | _ => true

@[simp] theorem isReferable_instant (t : Option Timestamp) : (instant t).isReferable = true := by
  cases t <;> rfl

@[simp] theorem isReferable_managerValue (m : Option EnergyManager) :
    (managerValue m).isReferable = true := by
  cases m <;> rfl

/-- No column refers to an entity without a uuid. -/
theorem Entity.isReferable_of_mem_columns {e : Entity} {column : String × Value}
    (mem : column ∈ e.columns) : column.2.isReferable = true := by
  have all : (e.columns.all (·.2.isReferable)) = true := by
    cases e
    case timeBasedValue v => obtain ⟨_, _, payload⟩ := v; cases payload <;> rfl
    all_goals
      simp only [columns, Asset.columns, VoltageLevel.columns, Irradiance.columns,
        Temperature.columns, Wind.columns, List.all_append, List.all_cons, List.all_nil,
        isReferable_instant, isReferable_managerValue]
      rfl
  exact List.all_eq_true.1 all column mem

/-- Values that are no quantities always have a text, entities because those in the columns of
others carry a uuid. -/
theorem Entity.exists_cellText {e : Entity} {kind : EntityKind} {field : String} {value : Value}
    (mem : (field, value) ∈ e.columns) (other : ∀ q, value ≠ .quantity q) :
    ∃ text, cellText kind field value = .ok text := by
  cases value with
  | null => exact ⟨_, rfl⟩
  | entity x =>
      obtain ⟨uuid, known⟩ := Option.isSome_iff_exists.1 (isReferable_of_mem_columns mem)
      unfold cellText
      by_cases placeholder : x.isUnassigned = true
      · exact ⟨"", if_pos placeholder⟩
      · refine ⟨uuid.text, ?_⟩
        simp only [if_neg placeholder, known]
  | quantity q => exact absurd rfl (other q)
  | _ => exact ⟨_, rfl⟩

/-- **An entity whose quantities are in their output units can be written exactly when all of
them are finite.** -/
theorem Entity.exists_flatten_iff {e : Entity} (held : e.UnitsHeld) :
    (∃ flat, e.flatten = .ok flat) ↔ ∀ q ∈ e.quantities, q.isFinite = true := by
  rw [exists_flatten_iff_cells]
  have column : ∀ c ∈ e.cells, (c.field, c.value) ∈ e.columns := by
    intro c mem
    rw [← map_cells]
    exact List.mem_map_of_mem mem
  constructor
  · intro all q mem
    obtain ⟨field, mem⟩ := mem_quantities.1 mem
    rw [← map_cells] at mem
    obtain ⟨c, mem, eq⟩ := List.mem_map.1 mem
    have value : c.value = .quantity q := congrArg Prod.snd eq
    obtain ⟨text, h⟩ := all c mem
    rw [value] at h
    have finite := (cellText_quantity (held c mem q value)).1 h
    exact (Decimal.exists_finiteText?_iff _ _).1 ⟨text, finite⟩
  · intro finite c mem
    by_cases quantity : ∃ q, c.value = .quantity q
    · obtain ⟨q, value⟩ := quantity
      have mem' : q ∈ e.quantities := mem_quantities.2 ⟨c.field, value ▸ column c mem⟩
      obtain ⟨text, h⟩ := (Decimal.exists_finiteText?_iff Decimal.amount _).2 (finite q mem')
      rw [value]
      exact ⟨text, (cellText_quantity (held c mem q value)).2 h⟩
    · exact exists_cellText (column c mem) fun q eq => quantity ⟨q, eq⟩

end GridRecords
