/-
# Writing back what was decoded

Everything an entity holds was read from a text of its record or is an entity that the record
refers to.  Its quantities were finite as they were written in the record (`QuantitiesRead`), but
the conversion into the unit of the field may take one beyond the largest magnitude.  Such an
entity is decoded and cannot be written; all others can.
-/
import GridRecords.Proofs.Decode.Inversion
import GridRecords.Proofs.Decode.Resolution
import GridRecords.Proofs.Quantity.Reading
import GridRecords.Proofs.Schema.Keeps
import GridRecords.Proofs.Schema.Selection

namespace GridRecords

variable {policy : BooleanPolicy} {kind : EntityKind} {r : FieldRecord} {c : Context}

/-! ## Contexts of references -/

/-- A context holds nothing but entities that records of a kind refer to. -/
structure Context.OfReferences (c : Context) (kind : EntityKind) : Prop where
  entity : ∀ name v, c.get? name = some v → ∃ e, v = .entity e
  other : ∀ name, name ∉ (Schema.builtin kind).references.map Prod.fst → c.get? name = none

/-- The empty context, whatever it is looked at for. -/
theorem Context.OfReferences.of_none (h : ∀ name, c.get? name = none) : c.OfReferences kind where
  entity name v found := by rw [h] at found; cases found
  other name _ := h name

/-- A resolution leads to a context of references. -/
theorem Context.OfReferences.of_resolve {i : ReferenceIndex} {resolution : Resolution}
    (h : i.resolve (Schema.builtin kind) r = .ok resolution) :
    Context.OfReferences resolution.context kind where
  entity name v found := by
    by_cases mem : name ∈ (Schema.builtin kind).references.map Prod.fst
    · obtain ⟨⟨name, target⟩, mem', rfl⟩ := List.mem_map.1 mem
      obtain ⟨o, look⟩ := ReferenceIndex.lookField_of_resolve h mem'
      rw [ReferenceIndex.context_of_resolve (ReferenceIndex.nodup_references kind) h mem' look]
        at found
      cases o <;> cases found
      exact ⟨_, rfl⟩
    · rw [ReferenceIndex.context_unreferenced h mem] at found
      cases found
  other name mem := ReferenceIndex.context_unreferenced h mem

/-- Such a context does not hold the entity that is decoded in it. -/
theorem Context.OfReferences.known? (h : c.OfReferences kind) : kind.known? c = none := by
  have unreferenced : kind.key ∉ (Schema.builtin kind).references.map Prod.fst := by
    cases kind <;> decide
  unfold EntityKind.known?
  rw [h.other _ unreferenced]

/-! ## Embedded entities -/

/-- The context for the fields of an embedded entity is empty. -/
theorem restrict_nestedFields (refs : c.OfReferences kind) {p : Parameter}
    (mem : p ∈ (Schema.builtin kind).parameters) (name : String) :
    (c.restrict p.nestedFields).get? name = none := by
  rw [Table.get?_restrict]
  split
  · rename_i field
    exact refs.other name (unreferenced_of_nested mem field)
  · rfl

/-- The parameters of embedded entities are no references. -/
theorem unreferenced_of_embedded {e : Entity} {x : String × Entity} (h : x ∈ e.embedded) :
    x.1 ∉ (Schema.builtin e.kind).references.map Prod.fst := by
  cases e
  case node n =>
    rw [List.mem_singleton.1 h]
    show "voltlvl" ∉ (Schema.builtin .node).references.map Prod.fst
    decide
  case timeBasedValue v =>
    exact List.not_mem_nil
  all_goals exact absurd h List.not_mem_nil

/-! ## What is read -/

/-- The quantities of an entity are those that the fields of a record say, in the units in which
the entity holds them. -/
def Entity.QuantitiesRead (e : Entity) (r : FieldRecord) : Prop :=
  ∀ field q, (field, Value.quantity q) ∈ e.columns →
    ∃ raw given, r.get? field = some raw ∧
      Quantity.written? (Text.trimmed raw) q.unit = some given ∧ given.convert q.unit = .ok q

/-- An entity was read from a record: its constructor and those of the entities embedded in it
accepted what the fields of the record say. -/
structure Entity.ReadFrom (e : Entity) (r : FieldRecord) : Prop where
  checked : e.Checked
  parts : ∀ x ∈ e.embedded, x.2.Checked
  quantities : e.QuantitiesRead r

/-- The unit in which a parameter is read, if it is a quantity. -/
def Parameter.declaredUnit? (p : Parameter) : Option MeasureUnit :=
  match p.source with
  | .direct (.quantity unit) => some unit
  | _ => none

/-- Quantities are read in the units in which they are written. -/
theorem outputUnit_of_declaredUnit {p : Parameter} (mem : p ∈ (Schema.builtin kind).parameters)
    {unit : MeasureUnit} (h : p.declaredUnit? = some unit) :
    kind.outputUnit? p.name = some unit := by
  have all : ∀ kind ∈ EntityKind.all, ∀ p ∈ (Schema.builtin kind).parameters,
      p.declaredUnit? = none ∨ kind.outputUnit? p.name = p.declaredUnit? := by
    decide
  rcases all kind kind.mem_all p mem with none | same
  · rw [none] at h
    cases h
  · rw [same, h]

/-- The unit of a quantity in a column of the entity itself. -/
theorem Entity.UnitsHeld.of_mem_ownColumns {e : Entity} (h : e.UnitsHeld) {field : String}
    {q : Quantity} (mem : (field, Value.quantity q) ∈ e.ownColumns) :
    e.kind.outputUnit? field = some q.unit := by
  cases e
  case node n =>
    refine h ⟨.node, field, .quantity q⟩ (List.mem_map_of_mem (a := (field, _)) ?_) q rfl
    exact mem_columns_iff.2 (.inl mem)
  case timeBasedValue v =>
    obtain ⟨uuid, time, payload⟩ := v
    cases payload
    case weather w => simp [ownColumns, TimeBasedValue.identity, Weather.position] at mem
    all_goals
      refine h ⟨.timeBasedValue, field, .quantity q⟩ ?_ q rfl
      simp only [cells, Payload.cells, Columns.cells, ← List.map_append]
      exact List.mem_map_of_mem (a := (field, _)) mem
  all_goals exact h ⟨_, field, .quantity q⟩ (List.mem_map_of_mem (a := (field, _)) mem) q rfl

/-- The quantity in a column of the entity itself is in the unit in which its field is read. -/
theorem Entity.UnitsHeld.unit_eq {e : Entity} (h : e.UnitsHeld) {p : Parameter}
    (known : p ∈ (Schema.builtin e.kind).parameters) {unit : MeasureUnit}
    (declared : p.declaredUnit? = some unit) {q : Quantity}
    (own : (p.name, Value.quantity q) ∈ e.ownColumns) : q.unit = unit := by
  have written := outputUnit_of_declaredUnit known declared
  rw [h.of_mem_ownColumns own] at written
  exact Option.some.inj written

/-- A quantity that is kept was given in some unit and is held in its own. -/
theorem Value.KeptAs.quantity {given : Value} {q : Quantity} (h : given.KeptAs (.quantity q)) :
    ∃ q', given = .quantity q' ∧ q'.convert q.unit = .ok q := by
  cases h with
  | same => exact ⟨q, rfl, Quantity.convert_self rfl⟩
  | held h =>
      refine ⟨_, rfl, ?_⟩
      rw [h.unit_eq]
      exact h

/-- A decoder for embedded entities reads them from the records that it is given. -/
def PlainDecoder.Reads (nested : PlainDecoder) : Prop :=
  ∀ target r c v, Context.OfReferences c target → nested target r c = .ok v →
    ∃ x, v = .entity x ∧ x.ReadFrom r

section

variable {nested : PlainDecoder} {p : Parameter}

/-- What the fields of a parameter are decoded to was read from these fields. -/
theorem exists_readFrom_of_nested (reads : nested.Reads) (refs : c.OfReferences kind)
    (known : p ∈ (Schema.builtin kind).parameters) {target : EntityKind} {fields : List String}
    (source : p.source = .nested target fields) {v : Value}
    (h : nested target (r.restrict fields) (c.restrict fields) = .ok v) :
    ∃ x, v = .entity x ∧ x.ReadFrom (r.restrict fields) := by
  have same : p.nestedFields = fields := by
    unfold Parameter.nestedFields
    rw [source]
  have none := restrict_nestedFields refs known
  rw [same] at none
  exact reads target _ _ v (.of_none none) h

/-- An embedded entity was decoded from the fields of its parameter. -/
theorem exists_readFrom_of_plainArgument (reads : nested.Reads) (refs : c.OfReferences kind)
    (known : p ∈ (Schema.builtin kind).parameters)
    (unreferenced : p.name ∉ (Schema.builtin kind).references.map Prod.fst) {x : Entity}
    (h : p.plainArgument policy nested r c = .ok (.entity x)) :
    ∃ names : List String, x.ReadFrom (r.restrict names) := by
  rcases argument_cases h (refs.other _ unreferenced) with null | ⟨leaf, raw, -, -, text⟩ |
      ⟨target, fields, source, inner⟩
  · cases null
  · exact absurd text decode_ne_entity
  · obtain ⟨y, eq, read⟩ := exists_readFrom_of_nested reads refs known source inner
    cases eq
    exact ⟨fields, read⟩

/-- A quantity was read from the text of its field, in the unit that the parameter declares. -/
theorem exists_read_of_plainArgument (reads : nested.Reads) (refs : c.OfReferences kind)
    (known : p ∈ (Schema.builtin kind).parameters) {q : Quantity}
    (h : p.plainArgument policy nested r c = .ok (.quantity q)) :
    ∃ raw unit, r.get? p.name = some raw ∧ p.declaredUnit? = some unit ∧
      Quantity.read (Text.trimmed raw) unit = .ok q := by
  have unknown : c.get? p.name = none := by
    cases found : c.get? p.name with
    | none => rfl
    | some v =>
        obtain ⟨x, rfl⟩ := refs.entity _ _ found
        unfold Parameter.plainArgument at h
        rw [found] at h
        cases h
  rcases argument_cases h unknown with null | ⟨leaf, raw, source, text, decoded⟩ |
      ⟨target, fields, source, inner⟩
  · cases null
  · obtain ⟨unit, rfl, read⟩ := quantity_of_decode decoded
    refine ⟨raw, unit, text, ?_, read⟩
    unfold Parameter.declaredUnit?
    rw [source]
  · obtain ⟨y, eq, -⟩ := exists_readFrom_of_nested reads refs known source inner
    cases eq

/-- The entities that a constructed entity embeds were read from fields of its record. -/
theorem exists_readFrom_of_embedded (reads : nested.Reads) {e : Entity}
    (refs : c.OfReferences e.kind) {signature : Signature} {a : Arguments}
    (arguments : (Schema.builtin e.kind).plainArguments signature policy nested r c = .ok a)
    {x : String × Entity} (mem : x ∈ e.embedded) (value : a.get x.1 = .entity x.2) :
    ∃ names : List String, x.2.ReadFrom (r.restrict names) := by
  have given : a.get x.1 ≠ .null := by
    rw [value]
    simp
  obtain ⟨p, known, name, argument⟩ := exists_plainArgument (nodup_parameters _) arguments given
  rw [value] at argument
  refine exists_readFrom_of_plainArgument reads refs known ?_ argument
  rw [name]
  exact unreferenced_of_embedded mem

/-- A quantity in a column of a constructed entity is what its field says, in the unit in which
the entity holds it. -/
theorem exists_written_of_ownColumns (reads : nested.Reads) {e : Entity}
    (refs : c.OfReferences e.kind) {signature : Signature} {a : Arguments}
    (arguments : (Schema.builtin e.kind).plainArguments signature policy nested r c = .ok a)
    (units : e.UnitsHeld) {field : String} {q : Quantity}
    (own : (field, Value.quantity q) ∈ e.ownColumns)
    (kept : (a.get field).KeptAs (.quantity q)) :
    ∃ raw given, r.get? field = some raw ∧
      Quantity.written? (Text.trimmed raw) q.unit = some given ∧ given.convert q.unit = .ok q := by
  obtain ⟨given, value, converted⟩ := kept.quantity
  have some' : a.get field ≠ .null := by
    rw [value]
    simp
  obtain ⟨p, known, rfl, argument⟩ := exists_plainArgument (nodup_parameters _) arguments some'
  rw [value] at argument
  obtain ⟨raw, declared, text, unit, read⟩ := exists_read_of_plainArgument reads refs known argument
  obtain ⟨said, written, held⟩ := Quantity.read_eq_ok_iff.1 read
  -- the field is read in the unit in which the entity holds it, so the constructor changed nothing
  cases units.unit_eq known unit own
  have again := Quantity.convert_self (Quantity.unit_of_convert held)
  rw [again] at converted
  cases converted
  exact ⟨raw, said, text, written, held⟩

/-- A constructed entity was read from its record if those embedded in it were. -/
theorem readFrom_of_plainConstruct {e : Entity} (reads : nested.Reads)
    (refs : c.OfReferences kind)
    (h : (Schema.builtin kind).plainConstruct policy nested r c = .ok e) :
    e.kind = kind ∧ e.ReadFrom r := by
  obtain ⟨signature, select, a, arguments, build⟩ := plainConstruct_eq_ok.1 h
  obtain ⟨same, kept⟩ :=
    Schema.keeps_builtin kind signature (mem_signatures_of_select select) a e build
  rw [Schema.kind_builtin] at same
  subst same
  have embedded : ∀ x ∈ e.embedded, ∃ names : List String, x.2.ReadFrom (r.restrict names) :=
    fun x mem => exists_readFrom_of_embedded reads refs arguments mem (kept.embedded x mem)
  have parts : ∀ x ∈ e.embedded, x.2.Checked := by
    intro x mem
    obtain ⟨names, read⟩ := embedded x mem
    exact read.checked
  refine ⟨rfl, kept.checked, parts, ?_⟩
  intro field q mem
  rcases Entity.mem_columns_iff.1 mem with own | ⟨x, part, mem⟩
  · exact exists_written_of_ownColumns reads refs arguments (kept.checked.unitsHeld parts) own
      (kept.columns _ own)
  · obtain ⟨names, read⟩ := embedded x part
    obtain ⟨raw, said, text, written, held⟩ := read.quantities field q mem
    refine ⟨raw, said, ?_, written, held⟩
    rw [FieldRecord.get?_restrict] at text
    split at text
    · exact text
    · cases text

end

/-- **What is decoded in a context of references was read from the record.** -/
theorem readFrom_of_plainWithin {depth : Nat} {v : Value} (refs : c.OfReferences kind)
    (h : plainWithin policy depth kind r c = .ok v) :
    ∃ e, v = .entity e ∧ e.kind = kind ∧ e.ReadFrom r := by
  induction depth generalizing kind r c v with
  | zero => cases h
  | succ depth ih =>
      obtain ⟨e, built, rfl⟩ := (plainWithin_succ_eq_ok refs.known?).1 h
      have reads : PlainDecoder.Reads (plainWithin policy depth) := by
        intro target r c v refs h
        obtain ⟨x, eq, -, read⟩ := ih refs h
        exact ⟨x, eq, read⟩
      exact ⟨e, rfl, readFrom_of_plainConstruct reads refs built⟩

theorem readFrom_of_plainEntity {e : Entity} (refs : c.OfReferences kind)
    (h : plainEntity policy kind r c = .ok e) : e.kind = kind ∧ e.ReadFrom r := by
  unfold plainEntity at h
  obtain ⟨v, decoded, kept⟩ := Outcome.bind_eq_ok.1 h
  obtain ⟨x, rfl, same, read⟩ := readFrom_of_plainWithin refs decoded
  cases Outcome.pure_eq_ok.1 kept
  exact ⟨same, read⟩

/-! ## What can be written back -/

/-- **A decoded entity can be written exactly when all its quantities are finite.**  As the fields
of the record said them they were; the conversion into the unit of the field is all that can have
changed that. -/
theorem exists_flatten_iff_of_decodeEntity {i : ReferenceIndex} {resolution : Resolution}
    {registry : Registry} {e : Entity} (builtin : registry.IsBuiltin policy)
    (resolved : i.resolve (Schema.builtin kind) r = .ok resolution)
    (decoded : (Registry.decodeEntity kind r resolution.context registry).1 = .ok e) :
    ((∃ flat, e.flatten = .ok flat) ↔ ∀ q ∈ e.quantities, q.isFinite = true) ∧
      ∀ field q, (field, Value.quantity q) ∈ e.columns →
        ∃ raw given, r.get? field = some raw ∧ given.isFinite = true ∧
          Quantity.written? (Text.trimmed raw) q.unit = some given ∧
          given.convert q.unit = .ok q := by
  obtain ⟨after, run, -⟩ := yields_decodeEntity kind r resolution.context registry builtin
  rw [run] at decoded
  obtain ⟨-, read⟩ := readFrom_of_plainEntity (.of_resolve resolved) decoded
  refine ⟨Entity.exists_flatten_iff (read.checked.unitsHeld read.parts), ?_⟩
  intro field q mem
  obtain ⟨raw, given, text, written, held⟩ := read.quantities field q mem
  exact ⟨raw, given, text, Quantity.isFinite_of_written? written, written, held⟩

/-- The row of a plant type with a thermal power. -/
def plantTypeRow (power : String) : FieldRecord :=
  .ofList [("uuid", "3d2a1b4c-0001-4000-8000-000000000001"), ("id", "plant type"),
    ("srated", "100"), ("cosphirated", "0.95"), ("etael", "30"), ("etathermal", "50"),
    ("pthermal", power), ("pown", "1")]

/-- The registry of the built-in schemas that refuses unclear boolean text. -/
def strictRegistry : Registry := .new (fun kind => some (Schema.builtin kind)) .strict

theorem isBuiltin_strictRegistry : strictRegistry.IsBuiltin .strict :=
  Registry.isBuiltin_new .strict

/-- What a row of a plant type decodes to, if it does. -/
def decodedPlantType? (power : String) : Option Entity :=
  match ReferenceIndex.empty.resolve (Schema.builtin .chpType) (plantTypeRow power) with
  | .ok resolution =>
    match (Registry.decodeEntity .chpType (plantTypeRow power) resolution.context
        strictRegistry).1 with
    | .ok e => some e
    | .error _ => none
  | .error _ => none

theorem decodedPlantType?_eq_some {power : String} {e : Entity}
    (h : decodedPlantType? power = some e) :
    ∃ resolution,
      ReferenceIndex.empty.resolve (Schema.builtin .chpType) (plantTypeRow power) =
        .ok resolution ∧
      (Registry.decodeEntity .chpType (plantTypeRow power) resolution.context
        strictRegistry).1 = .ok e := by
  unfold decodedPlantType? at h
  split at h
  · rename_i resolution resolved
    split at h
    · rename_i decoded
      cases h
      exact ⟨resolution, resolved, decoded⟩
    · cases h
  · cases h

/-- A plant type of 42 MW can be written. -/
theorem exists_flatten_of_decoded_plantType :
    ∃ resolution e,
      ReferenceIndex.empty.resolve (Schema.builtin .chpType) (plantTypeRow "42 MW") =
        .ok resolution ∧
      (Registry.decodeEntity .chpType (plantTypeRow "42 MW") resolution.context
        strictRegistry).1 = .ok e ∧ ∃ flat, e.flatten = .ok flat := by
  have decodes : ((decodedPlantType? "42 MW").any
      fun e => e.quantities.all Quantity.isFinite) = true := by decide +kernel
  obtain ⟨e, found, finite⟩ := (Option.any_eq_true _ _).1 decodes
  obtain ⟨resolution, resolved, decoded⟩ := decodedPlantType?_eq_some found
  refine ⟨resolution, e, resolved, decoded, ?_⟩
  exact (exists_flatten_iff_of_decodeEntity isBuiltin_strictRegistry resolved decoded).1.2
    (List.all_eq_true.1 finite)

/-- A plant type of 1e308 MW is decoded but cannot be written. -/
theorem not_flatten_of_decoded_plantType :
    ∃ resolution e,
      ReferenceIndex.empty.resolve (Schema.builtin .chpType) (plantTypeRow "1e308 MW") =
        .ok resolution ∧
      (Registry.decodeEntity .chpType (plantTypeRow "1e308 MW") resolution.context
        strictRegistry).1 = .ok e ∧ ∀ flat, e.flatten ≠ .ok flat := by
  have decodes : ((decodedPlantType? "1e308 MW").any
      fun e => e.flatten.toOption.isNone) = true := by decide +kernel
  obtain ⟨e, found, unwritten⟩ := (Option.any_eq_true _ _).1 decodes
  obtain ⟨resolution, resolved, decoded⟩ := decodedPlantType?_eq_some found
  refine ⟨resolution, e, resolved, decoded, ?_⟩
  intro flat written
  rw [written] at unwritten
  cases unwritten

end GridRecords
