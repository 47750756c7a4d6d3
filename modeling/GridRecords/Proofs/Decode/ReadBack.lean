/-
# Reading back what was written

The row of an entity, decoded in a context of the entities that it refers to, gives the entity
back.  The row selects the signature that binds all that building the entity needs
(`Schema.select_of_rowOf`); the argument of each parameter is the value of its column
(`argument_of_column`); and the builder gives the entity back (`Schema.rebuilds_builtin`).
-/
import GridRecords.Proofs.Decode.WriteBack
import GridRecords.Proofs.Leaf.ReadBack
import GridRecords.Proofs.Schema.Columns
import GridRecords.Proofs.Schema.Rebuild
import GridRecords.Proofs.Schema.Rows

namespace GridRecords

variable {policy : BooleanPolicy} {r : FieldRecord} {c : Context} {e : Entity}

/-! ## What an entity holds -/

/-- The timestamps that an entity writes into its row. -/
def Entity.timestamps (e : Entity) : List Timestamp :=
  e.columns.filterMap fun column =>
    match column.2 with
    | .timestamp t => some t
    | _ => none

theorem Entity.mem_timestamps {t : Timestamp} {field : String}
    (h : (field, Value.timestamp t) ∈ e.columns) : t ∈ e.timestamps :=
  List.mem_filterMap.2 ⟨_, h, rfl⟩

/-- What a context has to hold for the value of a column: the entity that it refers to. -/
def Value.reference? : Value → Option Value
  | .entity e => if e.isUnassigned then none else some (.entity e)
  | _ => none

/-- A context of the entities that an entity refers to, the placeholder apart. -/
structure Context.HoldsOf (c : Context) (e : Entity) : Prop extends c.OfReferences e.kind where
  held : ∀ column ∈ e.ownColumns, c.get? column.1 = column.2.reference?

/-- Positions of an entity that was built are within range. -/
theorem Entity.Built.position {field : String} {p : GeoPoint} (h : e.Built)
    (mem : (field, Value.geoPoint (some p)) ∈ e.ownColumns) : p.Built := by
  -- positions stand in the rows of nodes and of time-based values only
  have kinds : ∀ kind ∈ EntityKind.all, kind ≠ .node → kind ≠ .timeBasedValue →
      ∀ p ∈ (Schema.builtin kind).parameters, p.source ≠ .direct .geoPoint := by decide
  obtain ⟨parameter, found, accepts⟩ := e.typed_ownColumns _ mem
  have direct : parameter.source = .direct .geoPoint := by
    cases source : parameter.source with
    | direct leaf =>
        rw [source] at accepts
        cases leaf
        case geoPoint => rfl
        all_goals exact accepts.elim
    | nested target fields => rw [source] at accepts; exact accepts.elim
    | reference target => rw [source] at accepts; exact accepts.elim
  have known := (Schema.parameter?_eq_some found).1
  cases e
  case node n =>
    have noInstant (t : Option Timestamp) : Value.geoPoint (some p) ≠ instant t := by
      cases t <;> simp [instant, Value.ofOption]
    simp only [ownColumns, Asset.columns, List.mem_append, List.mem_cons, List.not_mem_nil,
      or_false, Prod.mk.injEq, reduceCtorEq, and_false, false_or, noInstant,
      Value.geoPoint.injEq] at mem
    exact h.rebuild_node.2.1 p mem.2.symm
  case timeBasedValue v =>
    obtain ⟨uuid, time, payload⟩ := v
    cases payload <;> simp [ownColumns, columns, TimeBasedValue.identity, Payload.columns,
      Weather.position] at mem
    case weather w =>
      obtain ⟨-, rfl⟩ := mem
      exact (h.rebuild_timeBasedValue.2 w rfl).1
  all_goals
    have elsewhere := kinds _ (EntityKind.mem_all _) (by simp [kind]) (by simp [kind]) _ known
    exact absurd direct elsewhere

/-- **The text of a column is decoded to the value of the column.** -/
theorem leafHolds_of_mem_ownColumns (built : e.Built)
    (legible : ∀ t ∈ e.timestamps, t.Legible) {column : String × Value}
    (mem : column ∈ e.ownColumns) {p : Parameter}
    (found : (Schema.builtin e.kind).parameter? column.1 = some p) {leaf : LeafKind}
    (direct : p.source = .direct leaf) (accepts : p.source.Accepts column.2) :
    leaf.Holds column.2 := by
  obtain ⟨field, value⟩ := column
  obtain ⟨parameter, rfl⟩ := Schema.parameter?_eq_some found
  rw [direct] at accepts
  cases leaf <;> cases value <;> try exact accepts.elim
  case text.text s => exact .text s
  case boolean.bool b => exact .boolean b
  case integer.int n =>
    obtain ⟨word, rfl⟩ := accepts
    exact .integer word
  case uuid.uuid u => exact .uuid u
  case timestamp.null => exact .noTimestamp
  case timestamp.timestamp t =>
    exact .timestamp (legible t (Entity.mem_timestamps (Entity.mem_columns_iff.2 (.inl mem))))
  case geoPoint.geoPoint p =>
    refine .geoPoint ?_
    rintro x rfl
    exact built.position mem
  case quantity.quantity unit q =>
    have declared : p.declaredUnit? = some unit := by
      unfold Parameter.declaredUnit?
      rw [direct]
    cases built.unitsHeld.unit_eq parameter declared mem
    exact .quantity q

/-! ## Arguments of a row -/

/-- The argument for the parameter of a column is the value of the column. -/
theorem argument_of_column {nested : PlainDecoder} (row : r.RowOf e) (refs : c.HoldsOf e)
    {column : String × Value} (mem : column ∈ e.ownColumns) {p : Parameter}
    (named : p.name = column.1) (accepts : p.source.Accepts column.2)
    (holds : ∀ leaf, p.source = .direct leaf → leaf.Holds column.2) :
    p.plainArgument policy nested r c = .ok column.2.argument := by
  obtain ⟨text, written, field⟩ := row.held column (Entity.mem_columns_iff.2 (.inl mem))
  have known := refs.held column mem
  obtain ⟨name, value⟩ := column
  unfold Parameter.plainArgument
  rw [named, known]
  cases source : p.source with
  | direct leaf =>
      have held := holds leaf source
      have plain : value.reference? = none ∧ value.argument = value := by
        cases held <;> exact ⟨rfl, rfl⟩
      have read := held.decode written policy
      simp only [plain.1, plain.2, field, read]
  | nested target fields =>
      rw [source] at accepts
      exact accepts.elim
  | reference target =>
      rw [source] at accepts
      cases value <;> try exact accepts.elim
      case null => rfl
      case entity x =>
        by_cases placeholder : x.isUnassigned = true
        · have absent : (Value.entity x).reference? = none := if_pos placeholder
          have argument : (Value.entity x).argument = .null := if_pos placeholder
          simp only [absent, argument]
        · have known : (Value.entity x).reference? = some (.entity x) := if_neg placeholder
          have argument : (Value.entity x).argument = .entity x := if_neg placeholder
          simp only [known, argument]

/-- Every row has a column. -/
theorem not_isEmpty_of_rowOf (row : r.RowOf e) : r.isEmpty = false := by
  have some' : ∀ shape ∈ columnShapes, shape.1.columnNames shape.2 ≠ [] := by decide
  have columns : e.columnNames ≠ [] := some' _ e.mem_columnShapes
  rw [← Entity.map_fst_columns] at columns
  obtain ⟨name, named⟩ := List.exists_mem_of_ne_nil _ columns
  obtain ⟨column, mem, rfl⟩ := List.mem_map.1 named
  obtain ⟨text, -, field⟩ := row.held column mem
  cases empty : r.isEmpty with
  | false => rfl
  | true =>
      have none : r.get? column.1 = Option.none := (Table.isEmpty_iff r.fields).1 empty column.1
      rw [none] at field
      cases field

/-- The argument for the parameter of an embedded entity is what its fields are decoded to. -/
theorem argument_of_embedded {nested : PlainDecoder} (row : r.RowOf e) (refs : c.HoldsOf e)
    {x : String × Entity} (mem : x ∈ e.embedded) {p : Parameter} (named : p.name = x.1)
    (source : p.source = .nested x.2.kind x.2.columnNames)
    (decoded : nested x.2.kind (r.restrict x.2.columnNames) (c.restrict x.2.columnNames) =
      .ok (.entity x.2)) :
    p.plainArgument policy nested r c = .ok (.entity x.2) := by
  have unknown := refs.other x.1 (unreferenced_of_embedded mem)
  have some' := not_isEmpty_of_rowOf (row.restrict mem)
  unfold Parameter.plainArgument
  rw [named, unknown, source]
  simp only [some', Bool.false_and, Bool.false_eq_true, if_false]
  exact decoded

/-- Arguments exist where each parameter has one. -/
theorem exists_plainArguments {s : Schema} {signature : Signature} {nested : PlainDecoder}
    (h : ∀ p ∈ s.parameters, ∃ v,
      (if signature.binds p.name then p.plainArgument policy nested r c else .ok .null) = .ok v) :
    ∃ a, s.plainArguments signature policy nested r c = .ok a := by
  have each : ∀ p ∈ s.parameters, ∃ entry, (Prod.mk p.name <$>
      if signature.binds p.name then p.plainArgument policy nested r c else .ok .null) =
        .ok entry := by
    intro p mem
    obtain ⟨v, value⟩ := h p mem
    exact ⟨(p.name, v), Outcome.map_eq_ok.2 ⟨v, value, rfl⟩⟩
  obtain ⟨values, steps⟩ := Outcome.exists_mapM_iff.2 each
  exact ⟨⟨values⟩, Outcome.map_eq_ok.2 ⟨values, steps, rfl⟩⟩

/-- The arguments that build an entity: what its columns say, and the entities that it embeds. -/
def Entity.arguments (e : Entity) : List (String × Value) :=
  e.ownColumns.map (fun column => (column.1, column.2.argument)) ++
    e.embedded.map fun x => (x.1, .entity x.2)

theorem Entity.map_fst_arguments (e : Entity) :
    e.arguments.map Prod.fst = Schema.needed e.kind e.family := by
  unfold arguments Schema.needed
  rw [← map_fst_ownColumns, ← map_fst_embedded, List.map_append, List.map_map, List.map_map]
  rfl

theorem Arguments.given_of_arguments {a : Arguments} (h : ∀ x ∈ e.arguments, a.get x.1 = x.2) :
    a.Given e where
  columns _ mem := h _ (List.mem_append_left _ (List.mem_map_of_mem mem))
  embedded _ mem := h _ (List.mem_append_right _ (List.mem_map_of_mem mem))

/-- Each argument that builds an entity is that of a parameter, read from the row. -/
theorem exists_parameter_of_rowOf {nested : PlainDecoder} (built : e.Built)
    (legible : ∀ t ∈ e.timestamps, t.Legible) (row : r.RowOf e) (refs : c.HoldsOf e)
    (decoded : ∀ x ∈ e.embedded, nested x.2.kind (r.restrict x.2.columnNames)
      (c.restrict x.2.columnNames) = .ok (.entity x.2))
    {x : String × Value} (needed : x ∈ e.arguments) :
    ∃ p ∈ (Schema.builtin e.kind).parameters, p.name = x.1 ∧
      p.plainArgument policy nested r c = .ok x.2 := by
  rcases List.mem_append.1 needed with own | part
  · obtain ⟨column, mem, rfl⟩ := List.mem_map.1 own
    obtain ⟨p, found, accepts⟩ := e.typed_ownColumns column mem
    obtain ⟨parameter, named⟩ := Schema.parameter?_eq_some found
    have holds : ∀ leaf, p.source = .direct leaf → leaf.Holds column.2 := fun leaf direct =>
      leafHolds_of_mem_ownColumns built legible mem found direct accepts
    exact ⟨p, parameter, named, argument_of_column row refs mem named accepts holds⟩
  · obtain ⟨x, mem, rfl⟩ := List.mem_map.1 part
    obtain ⟨p, found, source⟩ := Entity.nestedParameter mem
    obtain ⟨parameter, named⟩ := Schema.parameter?_eq_some found
    exact ⟨p, parameter, named, argument_of_embedded row refs mem named source (decoded x mem)⟩

/-- **The row of an entity gives the builder the arguments of the entity.** -/
theorem exists_given_of_rowOf {signature : Signature} {nested : PlainDecoder} (built : e.Built)
    (legible : ∀ t ∈ e.timestamps, t.Legible) (row : r.RowOf e) (refs : c.HoldsOf e)
    (decoded : ∀ x ∈ e.embedded, nested x.2.kind (r.restrict x.2.columnNames)
      (c.restrict x.2.columnNames) = .ok (.entity x.2))
    (binds : ∀ p ∈ (Schema.builtin e.kind).parameters,
      signature.binds p.name = (Schema.needed e.kind e.family).contains p.name) :
    ∃ a, (Schema.builtin e.kind).plainArguments signature policy nested r c = .ok a ∧
      a.Given e := by
  have nodup := nodup_parameters e.kind
  have bound : ∀ p ∈ (Schema.builtin e.kind).parameters,
      (signature.binds p.name = true ↔ p.name ∈ e.arguments.map Prod.fst) := by
    intro p parameter
    rw [binds p parameter, Entity.map_fst_arguments]
    exact List.contains_iff_mem
  obtain ⟨a, arguments⟩ : ∃ a,
      (Schema.builtin e.kind).plainArguments signature policy nested r c = .ok a := by
    refine exists_plainArguments ?_
    intro p mem
    cases bind : signature.binds p.name with
    | false => exact ⟨.null, rfl⟩
    | true =>
        -- the row gives an argument under this name, and names tell parameters apart
        obtain ⟨x, needed, named⟩ := List.mem_map.1 ((bound p mem).1 bind)
        obtain ⟨q, parameter, same, value⟩ :=
          exists_parameter_of_rowOf built legible row refs decoded needed
        have eq := Parameter.eq_of_name mem parameter (named.symm.trans same.symm)
        exact ⟨x.2, by rw [eq]; exact value⟩
  refine ⟨a, arguments, Arguments.given_of_arguments ?_⟩
  intro x mem
  obtain ⟨p, parameter, named, value⟩ :=
    exists_parameter_of_rowOf built legible row refs decoded mem
  have needed : p.name ∈ e.arguments.map Prod.fst := by
    rw [named]
    exact List.mem_map_of_mem mem
  have given := argument_of_plainArguments nodup arguments parameter
  rw [if_pos ((bound p parameter).2 needed), value, named] at given
  exact (Except.ok.inj given).symm

/-- **The row of an entity is decoded to the entity.** -/
theorem plainConstruct_of_rowOf {nested : PlainDecoder} (built : e.Built)
    (assigned : e.isUnassigned = false) (legible : ∀ t ∈ e.timestamps, t.Legible)
    (row : r.RowOf e) (refs : c.HoldsOf e)
    (decoded : ∀ x ∈ e.embedded, nested x.2.kind (r.restrict x.2.columnNames)
      (c.restrict x.2.columnNames) = .ok (.entity x.2)) :
    (Schema.builtin e.kind).plainConstruct policy nested r c = .ok e := by
  have known : ∀ name ∈ c.keys, name ∈ e.columnNames := by
    intro name mem
    obtain ⟨value, found⟩ := (c.mem_keys_iff name).1 mem
    by_cases reference : name ∈ (Schema.builtin e.kind).references.map Prod.fst
    · obtain ⟨⟨name, target⟩, mem', rfl⟩ := List.mem_map.1 reference
      rw [references_builtin] at mem'
      obtain ⟨v, column, -⟩ := exists_column_of_reference mem'
      rw [← Entity.map_fst_columns]
      exact List.mem_map_of_mem (Entity.mem_columns_iff.2 (.inl column))
    · rw [refs.other name reference] at found
      cases found
  obtain ⟨signature, selected, -, binds, family⟩ := Schema.select_of_rowOf row known
  obtain ⟨a, arguments, given⟩ := exists_given_of_rowOf built legible row refs decoded binds
  rw [plainConstruct_eq_ok]
  refine ⟨signature, selected, a, arguments, ?_⟩
  -- the signature of a time-based value is that of its family
  by_cases series : e.kind = .timeBasedValue
  · obtain ⟨v, rfl⟩ : ∃ v, e = .timeBasedValue v := by
      cases e
      case timeBasedValue v => exact ⟨v, rfl⟩
      all_goals cases series
    rw [family v rfl]
    exact Schema.rebuilds_familySignature built given
  · have same : e.kind = (Schema.builtin e.kind).kind := (Schema.kind_builtin e.kind).symm
    exact Schema.rebuilds_builtin series signature (mem_signatures_of_select selected) a e same
      built assigned given

/-! ## Embedded entities -/

/-- What is embedded embeds nothing, has no references and no timestamps. -/
structure Entity.Bare (e : Entity) : Prop where
  embedded : e.embedded = []
  assigned : e.isUnassigned = false
  timestamps : e.timestamps = []
  references : ∀ column ∈ e.ownColumns, column.2.reference? = none

theorem Entity.bare_of_mem_embedded {x : String × Entity} (h : x ∈ e.embedded) : x.2.Bare := by
  cases e
  case node n =>
    rw [List.mem_singleton.1 h]
    exact ⟨rfl, rfl, rfl, by simp [ownColumns, columns, VoltageLevel.columns, Value.reference?]⟩
  case timeBasedValue v =>
    obtain ⟨uuid, time, payload⟩ := v
    cases payload
    case weather w =>
      simp only [embedded, List.mem_cons, List.not_mem_nil, or_false] at h
      rcases h with rfl | rfl | rfl
      · exact ⟨rfl, rfl, rfl, by simp [ownColumns, columns, Irradiance.columns, Value.reference?]⟩
      · exact ⟨rfl, rfl, rfl, by simp [ownColumns, columns, Temperature.columns, Value.reference?]⟩
      · exact ⟨rfl, rfl, rfl, by simp [ownColumns, columns, Wind.columns, Value.reference?]⟩
    all_goals cases h
  all_goals cases h

/-- An empty context holds all that an entity without references refers to. -/
theorem Context.HoldsOf.of_none (references : ∀ column ∈ e.ownColumns, column.2.reference? = none)
    (h : ∀ name, c.get? name = none) : c.HoldsOf e where
  toOfReferences := .of_none h
  held column mem := by rw [h, references column mem]

/-- **The row of an entity is decoded to the entity**, embedded entities included. -/
theorem plainWithin_of_rowOf (depth : Nat) (built : e.Built) (assigned : e.isUnassigned = false)
    (legible : ∀ t ∈ e.timestamps, t.Legible) (row : r.RowOf e) (refs : c.HoldsOf e) :
    plainWithin policy (depth + 2) e.kind r c = .ok (.entity e) := by
  refine (plainWithin_succ_eq_ok refs.known?).2 ⟨e, ?_, rfl⟩
  refine plainConstruct_of_rowOf built assigned legible row refs ?_
  intro x mem
  have bare := Entity.bare_of_mem_embedded mem
  have builtX := built.of_mem_embedded mem
  obtain ⟨p, found, source⟩ := Entity.nestedParameter mem
  have fields : p.nestedFields = x.2.columnNames := by
    unfold Parameter.nestedFields
    rw [source]
  have none := restrict_nestedFields refs.toOfReferences (Schema.parameter?_eq_some found).1
  rw [fields] at none
  have refsX : Context.HoldsOf (c.restrict x.2.columnNames) x.2 := .of_none bare.references none
  -- what is embedded embeds nothing itself, so the depth is enough
  refine (plainWithin_succ_eq_ok refsX.known?).2 ⟨x.2, ?_, rfl⟩
  exact plainConstruct_of_rowOf builtX bare.assigned (by rw [bare.timestamps]; simp)
    (row.restrict mem) refsX (by rw [bare.embedded]; simp)

theorem plainEntity_of_rowOf (built : e.Built) (assigned : e.isUnassigned = false)
    (legible : ∀ t ∈ e.timestamps, t.Legible) (row : r.RowOf e) (refs : c.HoldsOf e) :
    plainEntity policy e.kind r c = .ok e := by
  have decoded : plainWithin policy (16 + 2) e.kind r c = .ok (.entity e) :=
    plainWithin_of_rowOf 16 built assigned legible row refs
  unfold plainEntity
  show (plainWithin policy (16 + 2) e.kind r c >>= _) = _
  rw [decoded]
  rfl

/-! ## Resolving the references of a row -/

/-- An index knows what an entity refers to: each dependency is found under its uuid. -/
def ReferenceIndex.Knows (i : ReferenceIndex) (e : Entity) : Prop :=
  ∀ x ∈ e.dependencies, ∀ uuid, x.uuid? = some uuid → i.get? uuid = some x

/-- The reference of a column is found, unless the column stands for no entity. -/
theorem lookField_of_rowOf {i : ReferenceIndex} (knows : i.Knows e) (row : r.RowOf e)
    {name : String} {v : Value} (mem : (name, v) ∈ e.ownColumns) {target : EntityKind}
    (typed : (∃ y, v = .entity y ∧ y.kind = target) ∨ v = .null) :
    ∃ o : ReferenceIndex.Outcome, i.lookField r name target = .ok o ∧ o.value? = v.reference? ∧
      o.substitution? = none := by
  obtain ⟨text, written, field⟩ := row.held (name, v) (Entity.mem_columns_iff.2 (.inl mem))
  -- blank text refers to nothing
  have absent (blank : text = "") : i.lookField r name target = .ok .absent := by
    refine ReferenceIndex.lookField_absent ?_
    intro raw found
    rw [field] at found
    cases found
    rw [blank]
    rfl
  rcases typed with ⟨y, rfl, kind⟩ | rfl
  · by_cases placeholder : y.isUnassigned = true
    · have blank : (Value.entity y).rowText? = some "" := if_pos placeholder
      rw [blank] at written
      exact ⟨.absent, absent (Option.some.inj written).symm, (if_pos placeholder).symm, rfl⟩
    · have known : (Value.entity y).rowText? = y.uuid?.map Uuid.text := if_neg placeholder
      rw [known] at written
      obtain ⟨uuid, identified, rfl⟩ := Option.map_eq_some_iff.1 written
      have found := knows y (mem_dependencies_of_column mem (by simpa using placeholder)) uuid
        identified
      refine ⟨.found y, ?_, (if_neg placeholder).symm, rfl⟩
      have filled : Text.trim uuid.text.toList ≠ [] := by
        rw [Uuid.trim_text]
        exact uuid.toList_text_ne_nil
      rw [ReferenceIndex.lookField_eq_ok_iff field filled]
      have trimmed : Text.trimmed uuid.text = uuid.text := by
        unfold Text.trimmed
        rw [Uuid.trim_text, String.ofList_toList]
      rw [trimmed]
      refine ⟨uuid, Uuid.read_text uuid, ?_⟩
      unfold ReferenceIndex.find
      simp only [found, if_pos kind]
  · cases written
    exact ⟨.absent, absent rfl, rfl, rfl⟩

/-- **The references of a row are resolved** without a substitution, to the entities that the
entity refers to. -/
theorem resolve_of_rowOf {i : ReferenceIndex} (knows : i.Knows e) (row : r.RowOf e) :
    ∃ resolution, i.resolve (Schema.builtin e.kind) r = .ok resolution ∧
      resolution.substitutions = [] ∧ resolution.context.HoldsOf e := by
  have look : ∀ reference ∈ (Schema.builtin e.kind).references, ∃ v,
      (reference.1, v) ∈ e.ownColumns ∧ ∃ o : ReferenceIndex.Outcome,
        i.lookField r reference.1 reference.2 = .ok o ∧ o.value? = v.reference? ∧
          o.substitution? = none := by
    rintro ⟨name, target⟩ mem
    rw [references_builtin] at mem
    obtain ⟨v, column, typed⟩ := exists_column_of_reference mem
    refine ⟨v, column, lookField_of_rowOf knows row column ?_⟩
    rcases typed with held | ⟨rfl, m, rfl⟩
    · exact .inl held
    · cases m with
      | none => exact .inr rfl
      | some m => exact .inl ⟨_, rfl, rfl⟩
  have all : ∀ reference ∈ (Schema.builtin e.kind).references,
      ∃ o, i.lookField r reference.1 reference.2 = .ok o := by
    intro reference mem
    obtain ⟨_, _, o, found, _⟩ := look reference mem
    exact ⟨o, found⟩
  have resolved := ReferenceIndex.resolve_eq_ok_iff.2 ⟨all, rfl⟩
  refine ⟨_, resolved, ?_, ⟨.of_resolve resolved, ?_⟩⟩
  · rw [List.eq_nil_iff_forall_not_mem]
    intro sub mem
    obtain ⟨reference, mem', substituted⟩ :=
      (ReferenceIndex.mem_substitutions_iff resolved).1 mem
    obtain ⟨_, _, o, found, -, none⟩ := look reference mem'
    rw [substituted] at found
    cases found
    cases none
  · rintro ⟨name, v⟩ mem
    by_cases reference : name ∈ (Schema.builtin e.kind).references.map Prod.fst
    · obtain ⟨⟨name, target⟩, mem', rfl⟩ := List.mem_map.1 reference
      obtain ⟨w, column, o, found, value, -⟩ := look _ mem'
      rw [ReferenceIndex.context_of_resolve (ReferenceIndex.nodup_references e.kind) resolved mem'
        found, value]
      -- one name has one column
      have same : (name, v) = (name, w) :=
        List.inj_on_of_nodup_map (e.map_fst_columns ▸ e.nodup_columnNames)
          (Entity.mem_columns_iff.2 (.inl mem)) (Entity.mem_columns_iff.2 (.inl column)) rfl
      cases same
      rfl
    · rw [ReferenceIndex.context_unreferenced resolved reference]
      cases v with
      | entity x => exact absurd (List.mem_map_of_mem (reference_of_column mem)) reference
      | _ => rfl

/-! ## The round trip -/

variable {i : ReferenceIndex} {registry : Registry}

/-- **What is written for an entity is decoded to the entity**, if its quantities are finite and its
timestamps are those that are read back from their text. -/
theorem decode_of_flatten (builtin : registry.IsBuiltin policy) (built : e.Built)
    (assigned : e.isUnassigned = false) (finite : ∀ q ∈ e.quantities, q.isFinite = true)
    (legible : ∀ t ∈ e.timestamps, t.Legible) (knows : i.Knows e) :
    ∃ flat resolution, e.flatten = .ok flat ∧
      i.resolve (Schema.builtin e.kind) flat.toRecord = .ok resolution ∧
      resolution.substitutions = [] ∧
      (Registry.decodeEntity e.kind flat.toRecord resolution.context registry).1 = .ok e := by
  have units := built.unitsHeld
  obtain ⟨flat, written⟩ := (Entity.exists_flatten_iff units).2 finite
  have row := Entity.rowOf_toRecord units written
  obtain ⟨resolution, resolved, none, refs⟩ := resolve_of_rowOf knows row
  refine ⟨flat, resolution, written, resolved, none, ?_⟩
  obtain ⟨after, run, -⟩ :=
    yields_decodeEntity e.kind flat.toRecord resolution.context registry builtin
  rw [run]
  exact plainEntity_of_rowOf built assigned legible row refs

/-- An operator with a uuid of its own. -/
def gridOperator : Operator := ⟨⟨0x3d2a1b4c000140008000000000000001#128⟩, "grid operator"⟩

/-- A node with an operator, a position and a window of operation that starts in a leap second. -/
def busbar : Node where
  uuid := ⟨0x3d2a1b4c000240008000000000000002#128⟩
  id := "busbar \"north\", 1"
  operator := gridOperator
  operationTime := ⟨some ⟨1483228799, 1500000000, 5400⟩, none⟩
  vTarget := ⟨1.02, .perUnit⟩
  slack := true
  geoPosition := some ⟨7.4116482, -51.4843281⟩
  voltageLevel := ⟨"high voltage", ⟨110.0, .kilovolt⟩⟩
  subnet := 3

theorem built_busbar : (Entity.node busbar).Built := by
  have level : Entity.Built (.voltageLevel busbar.voltageLevel) :=
    .voltageLevel (VoltageLevel.checked_eq_ok.2 ⟨Quantity.convert_self rfl, by decide, rfl⟩)
  have operator : Entity.Built (.operator gridOperator) :=
    .operator (Operator.checked_eq_ok.2 ⟨by decide, rfl⟩)
  have time : busbar.operationTime.Built := ⟨busbar.operationTime.start, none, rfl⟩
  have checked : Node.checked busbar.toAsset busbar.vTarget busbar.slack busbar.geoPosition
      busbar.voltageLevel 3 = .ok busbar :=
    Node.checked_eq_ok.2 ⟨Quantity.convert_self rfl, rfl, rfl, rfl, rfl, rfl⟩
  refine .node operator time ?_ level checked
  intro p position
  cases position
  exact ⟨7.4116482, -51.4843281, if_pos (by decide)⟩

/-- A node is read back with its operator. -/
theorem decode_of_flatten_busbar :
    ∃ flat resolution, (Entity.node busbar).flatten = .ok flat ∧
      (ReferenceIndex.ofList [.operator gridOperator]).resolve (Schema.builtin .node)
        flat.toRecord = .ok resolution ∧
      resolution.substitutions = [] ∧
      (Registry.decodeEntity .node flat.toRecord resolution.context strictRegistry).1 =
        .ok (.node busbar) := by
  refine decode_of_flatten isBuiltin_strictRegistry built_busbar rfl ?_ ?_ ?_
  · decide
  · have only : (Entity.node busbar).timestamps = [⟨1483228799, 1500000000, 5400⟩] := by
      decide
    rw [only, List.forall_mem_singleton]
    exact ⟨⟨⟨by decide, by decide⟩, by decide, by decide⟩, by decide⟩
  · have only : (Entity.node busbar).dependencies = [.operator gridOperator] := rfl
    unfold ReferenceIndex.Knows
    rw [only, List.forall_mem_singleton]
    intro uuid identified
    cases identified
    rfl

/-- A manager whose operation starts at a fraction that goes on for more than the fifth second. -/
def stretchedManager : EnergyManager where
  uuid := ⟨0x3d2a1b4c000140008000000000000001#128⟩
  id := "manager"
  operator := .unassigned
  operationTime := ⟨some .stretched, none⟩
  controlStrategy := "self optimization"
  ancestors := []

theorem built_stretchedManager : (Entity.energyManager stretchedManager).Built := by
  have operator : Entity.Built (.operator .unassigned) := .unassigned
  have time : stretchedManager.operationTime.Built :=
    ⟨stretchedManager.operationTime.start, none, rfl⟩
  have checked : EnergyManager.checked stretchedManager.toAsset stretchedManager.controlStrategy
      none = .ok stretchedManager := rfl
  refine .energyManager operator time ?_ checked
  intro p parent
  cases parent

/-- The only timestamp of the manager. -/
theorem printable_stretchedManager {t : Timestamp}
    (mem : t ∈ (Entity.energyManager stretchedManager).timestamps) : t.Printable := by
  have only : (Entity.energyManager stretchedManager).timestamps = [.stretched] := rfl
  rw [only] at mem
  rw [List.mem_singleton.1 mem]
  exact Timestamp.printable_stretched

theorem dependencies_stretchedManager :
    (Entity.energyManager stretchedManager).dependencies = [] := rfl

theorem quantities_stretchedManager :
    (Entity.energyManager stretchedManager).quantities = [] := rfl

/-- The operation of the manager starts later once the manager is read back. -/
theorem not_decode_of_flatten_stretched :
    (Entity.energyManager stretchedManager).Built ∧
      (∀ q ∈ (Entity.energyManager stretchedManager).quantities, q.isFinite = true) ∧
      (∀ t ∈ (Entity.energyManager stretchedManager).timestamps, t.Printable) ∧
      ReferenceIndex.empty.Knows (.energyManager stretchedManager) ∧
      ∃ flat resolution e, (Entity.energyManager stretchedManager).flatten = .ok flat ∧
        ReferenceIndex.empty.resolve (Schema.builtin .energyManager) flat.toRecord =
          .ok resolution ∧
        (Registry.decodeEntity .energyManager flat.toRecord resolution.context
          strictRegistry).1 = .ok e ∧
        e.timestamps = [⟨5, 333333333, 0⟩] ∧
        (e == Entity.energyManager stretchedManager) = false := by
  have evaluated : (do
      let flat ← (Entity.energyManager stretchedManager).flatten
      let resolution ← ReferenceIndex.empty.resolve (Schema.builtin .energyManager) flat.toRecord
      (Registry.decodeEntity .energyManager flat.toRecord resolution.context
        strictRegistry).1 : Except Failure Entity).toOption.any (fun e =>
          decide (e.timestamps = [⟨5, 333333333, 0⟩]) &&
            !(e == Entity.energyManager stretchedManager)) = true := by
    decide +kernel
  obtain ⟨e, run, other⟩ := Outcome.exists_of_any evaluated
  obtain ⟨flat, written, run⟩ := Outcome.bind_eq_ok.1 run
  obtain ⟨resolution, resolved, decoded⟩ := Outcome.bind_eq_ok.1 run
  simp only [Bool.and_eq_true, decide_eq_true_eq, Bool.not_eq_true'] at other
  refine ⟨built_stretchedManager, ?_, fun t => printable_stretchedManager, ?_, flat, resolution, e,
    written, resolved, decoded, other⟩
  · rw [quantities_stretchedManager]
    exact List.forall_mem_nil _
  · unfold ReferenceIndex.Knows
    rw [dependencies_stretchedManager]
    exact List.forall_mem_nil _

end GridRecords
