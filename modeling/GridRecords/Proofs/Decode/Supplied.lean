/-
# Values supplied in place of text

What a parameter is decoded to can be supplied by the context, and its fields left out of the
record.  Where a parameter has the name of one of its fields, this makes no difference
(`plainConstruct_of_supplied`): the context supplies that field, and the others belong to all
signatures.

The irradiance and the wind of a weather value have names of their own.  Selection goes by the
fields that are supplied, so it does not see that such a name stands in the context, and without
the fields of the parameter no signature fits (`fitting_eq_nil_of_supplied`).
-/
import GridRecords.Proofs.Decode.Assembly

namespace GridRecords

open Decoding

/-- The fields of other names. -/
def FieldRecord.without (r : FieldRecord) (names : List String) : FieldRecord :=
  ⟨r.fields.filter (!names.contains ·)⟩

variable {policy : BooleanPolicy} {kind : EntityKind} {p : Parameter} {r : FieldRecord}
  {c : Context} {v : Value} {e : Entity}

theorem FieldRecord.get?_without (names : List String) (name : String) :
    (r.without names).get? name = if name ∈ names then none else r.get? name := by
  show (r.fields.filter (!names.contains ·)).get? name = _
  rw [Table.get?_filter]
  by_cases mem : name ∈ names <;> simp [mem, FieldRecord.get?]

theorem FieldRecord.mem_keys_without {names : List String} {name : String} :
    name ∈ (r.without names).keys ↔ name ∈ r.keys ∧ name ∉ names := by
  show name ∈ (r.fields.filter (!names.contains ·)).keys ↔ _
  rw [Table.keys_filter, List.mem_filter]
  simp [FieldRecord.keys]

theorem Table.mem_keys_insert {α : Type} {t : Table α} {name other : String} {value : α} :
    other ∈ (t.insert name value).keys ↔ other = name ∨ other ∈ t.keys := by
  rw [← Table.contains_iff, ← Table.contains_iff]
  unfold Table.contains
  rw [Table.get?_insert]
  by_cases same : other = name <;> simp [same]

/-! ## Names of parameters -/

theorem fields_ne_nil (mem : p ∈ (Schema.builtin kind).parameters) : p.fields ≠ [] := by
  have all : ∀ kind ∈ EntityKind.all, ∀ p ∈ (Schema.builtin kind).parameters, p.fields ≠ [] := by
    decide
  exact all kind kind.mem_all p mem

/-- The fields of a parameter that has the name of one of them belong to all signatures, that one
apart. -/
theorem mem_shared_of_own (mem : p ∈ (Schema.builtin kind).parameters) (own : p.name ∈ p.fields)
    {field : String} (consumes : field ∈ p.fields) :
    field = p.name ∨ field ∈ (Schema.builtin kind).shared := by
  have all : ∀ kind ∈ EntityKind.all, ∀ p ∈ (Schema.builtin kind).parameters, p.name ∈ p.fields →
      ∀ field ∈ p.fields, field = p.name ∨ field ∈ (Schema.builtin kind).shared := by
    decide
  exact all kind kind.mem_all p mem own field consumes

/-- The irradiance and the wind of a weather value are all parameters that have none of their
fields' names. -/
theorem notMem_fields_iff (mem : p ∈ (Schema.builtin kind).parameters) :
    p.name ∉ p.fields ↔ kind = .timeBasedValue ∧ p.name ∈ ["irradiance", "wind"] := by
  have all : ∀ kind ∈ EntityKind.all, ∀ p ∈ (Schema.builtin kind).parameters, p.name ∉ p.fields ↔
      kind = .timeBasedValue ∧ p.name ∈ ["irradiance", "wind"] := by
    decide
  exact all kind kind.mem_all p mem

/-- No entity is embedded under the key of the kind that it is embedded in. -/
theorem name_ne_key_of_nested (mem : p ∈ (Schema.builtin kind).parameters) {target : EntityKind}
    {fields : List String} (source : p.source = .nested target fields) : p.name ≠ kind.key := by
  have all : ∀ kind ∈ EntityKind.all, ∀ p ∈ (Schema.builtin kind).parameters,
      p.nestedFields ≠ [] → p.name ≠ kind.key := by
    decide
  refine all kind kind.mem_all p mem ?_
  have some' := fields_ne_nil mem
  unfold Parameter.fields at some'
  unfold Parameter.nestedFields
  rw [source] at some' ⊢
  exact some'

/-! ## Parameters that have the name of one of their fields -/

/-- The same fields are supplied, apart from some that belong to all signatures. -/
theorem select_of_supplied (mem : p ∈ (Schema.builtin kind).parameters) (own : p.name ∈ p.fields)
    (present : p.name ∈ r.keys) {signature : Signature}
    (h : (Schema.builtin kind).select r c = .ok signature) :
    (Schema.builtin kind).select (r.without p.fields) (c.insert p.name v) = .ok signature := by
  refine Schema.select_of_open h ?_
  refine filter_sortedNames_eq_iff.2 fun name => ?_
  simp only [List.mem_filter]
  refine and_congr_left fun open_ => ?_
  show name ∈ (Schema.builtin kind).supplied r c ↔ name ∈ (Schema.builtin kind).supplied _ _
  rw [Schema.mem_supplied, Schema.mem_supplied, FieldRecord.mem_keys_without,
    Table.mem_keys_insert]
  refine and_congr_left fun _ => ?_
  by_cases consumes : name ∈ p.fields
  · rcases mem_shared_of_own mem own consumes with rfl | shared
    · simp [present]
    · simp [shared] at open_
  · have ne : name ≠ p.name := fun eq => consumes (eq ▸ own)
    simp [consumes, ne]

/-- The argument of another parameter stays. -/
theorem plainArgument_of_supplied (mem : p ∈ (Schema.builtin kind).parameters)
    (own : p.name ∈ p.fields) {q : Parameter} (mem' : q ∈ (Schema.builtin kind).parameters)
    (other : q ≠ p) (nested : PlainDecoder) :
    q.plainArgument policy nested (r.without p.fields) (c.insert p.name v) =
      q.plainArgument policy nested r c := by
  have apart {field : String} (h : field ∈ q.fields) : field ∉ p.fields := fun h' =>
    other (Parameter.eq_of_mem_fields mem' mem h h')
  have known {name : String} (ne : name ≠ p.name) :
      (c.insert p.name v).get? name = c.get? name := by
    rw [Table.get?_insert, if_neg ne]
  refine plainArgument_of_own (known fun eq => other (Parameter.eq_of_name mem' mem eq))
    (fun field inner => ⟨?_, ?_⟩) nested
  · rw [FieldRecord.get?_without, if_neg (apart inner)]
  · exact known fun same => apart inner (same ▸ own)

/-- **Supplying the value of a parameter that has the name of one of its fields comes to the same as
leaving its text to be decoded.** -/
theorem plainConstruct_of_supplied (mem : p ∈ (Schema.builtin kind).parameters)
    (own : p.name ∈ p.fields) (present : p.name ∈ r.keys) {nested : PlainDecoder}
    (decoded : p.plainArgument policy nested r c = .ok v)
    (h : (Schema.builtin kind).plainConstruct policy nested r c = .ok e) :
    (Schema.builtin kind).plainConstruct policy nested (r.without p.fields) (c.insert p.name v) =
      .ok e := by
  obtain ⟨signature, selected, a, arguments, built⟩ := plainConstruct_eq_ok.1 h
  have selected' := select_of_supplied (v := v) mem own present selected
  refine plainConstruct_eq_ok.2 ⟨signature, selected', a, ?_, built⟩
  rw [← arguments]
  refine congrArg _ (Outcome.mapM_congr fun q mem' => congrArg _ ?_)
  by_cases same : q = p
  · have supplied : p.plainArgument policy nested (r.without p.fields) (c.insert p.name v) =
        .ok v := by
      unfold Parameter.plainArgument
      rw [Table.get?_insert, if_pos rfl]
    rw [same, supplied, decoded]
  · rw [plainArgument_of_supplied mem own mem' same nested]

/-! ## Parameters that have a name of their own -/

/-- The position tells weather values apart from all others, as do the irradiance and the wind. -/
theorem coordinate_of_not_own (mem : p ∈ (Schema.builtin kind).parameters)
    (other : p.name ∉ p.fields) :
    "coordinate" ∉ p.fields ∧ ∀ signature ∈ (Schema.builtin kind).signatures, ∀ field ∈ p.fields,
      (field ∈ (Schema.builtin kind).fieldsOf signature →
        "coordinate" ∈ (Schema.builtin kind).distinct signature) ∧
      ("coordinate" ∈ (Schema.builtin kind).distinct signature →
        field ∈ (Schema.builtin kind).distinct signature) := by
  obtain ⟨rfl, -⟩ := (notMem_fields_iff mem).1 other
  have all : ∀ p ∈ (Schema.builtin .timeBasedValue).parameters, p.name ∉ p.fields →
      "coordinate" ∉ p.fields ∧ ∀ signature ∈ (Schema.builtin .timeBasedValue).signatures,
        ∀ field ∈ p.fields,
          (field ∈ (Schema.builtin .timeBasedValue).fieldsOf signature →
            "coordinate" ∈ (Schema.builtin .timeBasedValue).distinct signature) ∧
          ("coordinate" ∈ (Schema.builtin .timeBasedValue).distinct signature →
            field ∈ (Schema.builtin .timeBasedValue).distinct signature) := by
    decide +kernel
  exact all p mem other

/-- **Without the fields of such a parameter no signature fits**, whatever the context holds under
its name. -/
theorem fitting_eq_nil_of_supplied (mem : p ∈ (Schema.builtin kind).parameters)
    (other : p.name ∉ p.fields) (full : ∀ field ∈ p.fields, field ∈ r.keys)
    (unknown : ∀ field ∈ p.fields, field ∉ c.keys) {signature : Signature}
    (h : (Schema.builtin kind).select r c = .ok signature) :
    (Schema.builtin kind).fitting
      ((Schema.builtin kind).supplied (r.without p.fields) (c.insert p.name v)) = [] := by
  obtain ⟨field, consumes⟩ := List.exists_mem_of_ne_nil _ (fields_ne_nil mem)
  obtain ⟨apart, tells⟩ := coordinate_of_not_own mem other
  have known : field ∈ (Schema.builtin kind).known := Schema.mem_known.2 ⟨p, mem, consumes⟩
  have given : field ∈ (Schema.builtin kind).supplied r c :=
    Schema.mem_supplied.2 ⟨.inl (full field consumes), known⟩
  have weather : "coordinate" ∈ (Schema.builtin kind).distinct signature :=
    (tells signature (mem_signatures_of_select h) field consumes).1
      (Schema.mem_fieldsOf_of_select h given)
  rw [Schema.distinct_of_select h, List.mem_filter, Schema.mem_supplied] at weather
  obtain ⟨⟨somewhere, known'⟩, open_⟩ := weather
  refine List.eq_nil_iff_forall_not_mem.2 fun signature' fits => ?_
  obtain ⟨mem', distinct⟩ := Schema.mem_fitting.1 fits
  have still : "coordinate" ∈ (Schema.builtin kind).distinct signature' := by
    rw [distinct, List.mem_filter, Schema.mem_supplied, FieldRecord.mem_keys_without,
      Table.mem_keys_insert]
    exact ⟨⟨somewhere.imp (⟨·, apart⟩) .inr, known'⟩, open_⟩
  -- so the fields that were left out would have to be supplied
  have again := (tells signature' mem' field consumes).2 still
  rw [distinct, List.mem_filter, Schema.mem_supplied, FieldRecord.mem_keys_without,
    Table.mem_keys_insert] at again
  rcases again.1.1 with ⟨-, left_⟩ | rfl | inContext
  · exact left_ consumes
  · exact other consumes
  · exact unknown field consumes inContext

theorem Schema.select_of_fitting {s : Schema} (none : s.fitting (s.supplied r c) = []) :
    s.select r c =
      .error (.noMatchingSignature s.kind (s.supplied r c) (s.signatures.map s.fieldsOf) 0) := by
  simp only [select, none]
  rfl

/-! ## Decoding -/

/-- Entities that have none embedded in them are decoded alike at all depths. -/
theorem plainWithin_of_nestedKinds (flat : (Schema.builtin kind).nestedKinds = [])
    (depth depth' : Nat) (r : FieldRecord) (c : Context) :
    plainWithin policy (depth + 1) kind r c = plainWithin policy (depth' + 1) kind r c := by
  unfold plainWithin
  cases kind.known? c with
  | some e => rfl
  | none =>
      refine congrArg (Value.entity <$> ·) (congrArg _ (funext fun signature => ?_))
      refine congrArg (· >>= _) (congrArg _ (Outcome.mapM_congr fun p mem => congrArg _ ?_))
      have same : p.plainArgument policy (plainWithin policy depth) r c =
          p.plainArgument policy (plainWithin policy depth') r c := by
        refine plainArgument_congr fun target fields source => ?_
        have inner := Schema.mem_nestedKinds mem source
        rw [flat] at inner
        cases inner
      rw [same]

/-- The value of a parameter does not depend on the depth that is left for it. -/
theorem plainArgument_of_depth (mem : p ∈ (Schema.builtin kind).parameters) (depth depth' : Nat) :
    p.plainArgument policy (plainWithin policy (depth + 1)) r c =
      p.plainArgument policy (plainWithin policy (depth' + 1)) r c :=
  plainArgument_congr fun _ _ source => plainWithin_of_nestedKinds
    (nestedKinds_of_embedded (Schema.mem_nestedKinds mem source)) depth depth'

/-- What a parameter is decoded to is no entity that decoding would take for its result. -/
theorem known?_insert (mem : p ∈ (Schema.builtin kind).parameters)
    (unknown : c.get? p.name = none) {nested : PlainDecoder}
    (decoded : p.plainArgument policy nested r c = .ok v) :
    kind.known? (c.insert p.name v) = kind.known? c := by
  unfold EntityKind.known?
  rw [Table.get?_insert]
  by_cases key : kind.key = p.name
  · rw [if_pos key, key, unknown]
    rcases argument_cases decoded unknown with rfl | ⟨leaf, raw, -, -, read⟩ | ⟨_, _, source, -⟩
    · rfl
    · cases v with
      | entity e => exact absurd read decode_ne_entity
      | _ => rfl
    · exact absurd key.symm (name_ne_key_of_nested mem source)
  · rw [if_neg key]

theorem plainEntity_of_known {e' : Entity} (known : kind.known? c = some e') :
    plainEntity policy kind r c = .ok e' := by
  have within : plainWithin policy EntityKind.all.length kind r c = .ok (.entity e') := by
    show plainWithin policy (17 + 1) kind r c = _
    unfold plainWithin
    rw [known]
  unfold plainEntity
  rw [within]
  rfl

theorem plainEntity_of_select (unknown : kind.known? c = none) {f : Failure}
    (h : (Schema.builtin kind).select r c = .error f) : plainEntity policy kind r c = .error f := by
  refine plainEntity_eq_error ?_
  show plainWithin policy (17 + 1) kind r c = _
  refine plainWithin_succ_eq_error unknown ?_
  unfold Schema.plainConstruct
  rw [h]
  rfl

/-- The parameters of the record's fields are decoded where an entity is constructed. -/
theorem exists_argument_of_plainConstruct (mem : p ∈ (Schema.builtin kind).parameters)
    {field : String} (consumes : field ∈ p.fields) (present : field ∈ r.keys)
    {nested : PlainDecoder} (h : (Schema.builtin kind).plainConstruct policy nested r c = .ok e) :
    ∃ v, p.plainArgument policy nested r c = .ok v := by
  obtain ⟨signature, selected, a, arguments, -⟩ := plainConstruct_eq_ok.1 h
  have value := argument_of_plainArguments (nodup_parameters kind) arguments mem
  rw [if_pos (binds_of_select selected mem consumes (.inl present))] at value
  exact ⟨_, value⟩

/-- **Supplying a value comes to the same as leaving its text to be decoded, except for the
irradiance and the wind of weather values.**  A record with all fields of a parameter that the
context does not supply is decoded to an entity.  Then the parameter has a value, unless the context
knows the entity itself.  With the value under the parameter's name in the context and without the
fields in the record, the same entity is decoded if the parameter has the name of one of its fields
or the context knows the entity; else no signature fits. -/
theorem decodeEntity_of_supplied {registry registry' : Registry} (hr : registry.IsBuiltin policy)
    (hr' : registry'.IsBuiltin policy) (mem : p ∈ (Schema.builtin kind).parameters)
    (full : ∀ field ∈ p.fields, r.contains field = true)
    (unknown : ∀ name ∈ p.name :: p.fields, c.contains name = false)
    (decoded : (Registry.decodeEntity kind r c registry).1 = .ok e) :
    (kind.known? c = none → ∃ v, (p.argument Registry.decodeNested r c registry).1 = .ok v) ∧
    (∀ v, (p.argument Registry.decodeNested r c registry).1 = .ok v →
      (Registry.decodeEntity kind (r.without p.fields) (c.insert p.name v) registry').1 =
        if p.name ∈ p.fields ∨ (kind.known? c).isSome then .ok e
        else .error (.noMatchingSignature kind
          ((Schema.builtin kind).supplied (r.without p.fields) (c.insert p.name v))
          ((Schema.builtin kind).signatures.map (Schema.builtin kind).fieldsOf) 0)) ∧
    (p.name ∉ p.fields ↔ kind = .timeBasedValue ∧ p.name ∈ ["irradiance", "wind"]) := by
  have present : ∀ field ∈ p.fields, field ∈ r.keys := fun field consumes =>
    (r.fields.contains_iff field).1 (full field consumes)
  have absent : ∀ name ∈ p.name :: p.fields, name ∉ c.keys := fun name consumes inContext => by
    cases (unknown name consumes).symm.trans ((c.contains_iff name).2 inContext)
  have open_ : c.get? p.name = none :=
    (c.contains_eq_false_iff p.name).1 (unknown p.name List.mem_cons_self)
  have argument : (p.argument Registry.decodeNested r c registry).1 =
      p.plainArgument policy (plainWithin policy 17) r c := by
    have asked : (p.argument Registry.decodeNested r c registry).1 =
        p.plainArgument policy (plainWithin policy 18) r c :=
      ComesTo.eq (yields_argument p (yields_decodeWithin _) r c) hr
    exact asked.trans (plainArgument_of_depth mem 17 16)
  have first : plainEntity policy kind r c = .ok e := by
    rw [← decoded]
    exact (ComesTo.eq (yields_decodeEntity kind r c) hr).symm
  rw [argument]
  refine ⟨fun fresh => ?_, fun v value => ?_, notMem_fields_iff mem⟩
  · obtain ⟨field, consumes⟩ := List.exists_mem_of_ne_nil _ (fields_ne_nil mem)
    exact exists_argument_of_plainConstruct mem consumes (present field consumes)
      ((plainEntity_eq_ok fresh).1 first)
  · rw [ComesTo.eq (yields_decodeEntity kind _ _) hr']
    have known := known?_insert mem open_ value
    cases knows : kind.known? c with
    | some e' =>
        rw [knows] at known
        rw [plainEntity_of_known knows] at first
        simp only [Option.isSome_some, or_true, ↓reduceIte]
        exact (plainEntity_of_known known).trans first
    | none =>
        rw [knows] at known
        have built := (plainEntity_eq_ok knows).1 first
        by_cases own : p.name ∈ p.fields
        · rw [if_pos (.inl own)]
          exact (plainEntity_eq_ok known).2
            (plainConstruct_of_supplied mem own (present _ own) value built)
        · obtain ⟨signature, selected, -⟩ := plainConstruct_eq_ok.1 built
          have unfit := fitting_eq_nil_of_supplied (v := v) mem own present
            (fun field consumes => absent field (List.mem_cons_of_mem _ consumes)) selected
          have failed := Schema.select_of_fitting unfit
          rw [Schema.kind_builtin] at failed
          rw [if_neg (by simp [own])]
          exact plainEntity_of_select known failed

/-- A row of a weather value. -/
def weatherRow : FieldRecord :=
  .ofList [("uuid", "3d2a1b4c-0001-4000-8000-000000000001"), ("time", "2020-01-01T00:00:00Z"),
    ("coordinate", "\x7b\"type\":\"Point\",\"coordinates\":[7.4,51.5]\x7d"),
    ("diffuseirradiance", "120.5"), ("directirradiance", "300"), ("temperature", "281.15"),
    ("winddirection", "180"), ("windvelocity", "4.5")]

/-- What a weather row comes to when the value of a parameter is supplied in place of its fields. -/
def decodedSupplied (p : Parameter) (v : Value) : Except Failure Entity :=
  (Registry.decodeEntity .timeBasedValue (weatherRow.without p.fields)
    (Table.empty.insert p.name v) strictRegistry).1

/-- The temperature of a weather row can be supplied. -/
theorem decodeEntity_of_supplied_temperature :
    ∃ e v,
      (Registry.decodeEntity .timeBasedValue weatherRow .empty strictRegistry).1 = .ok e ∧
      ((Parameter.nested "temperature" .temperature Schema.temperatureColumns).argument
        Registry.decodeNested weatherRow .empty strictRegistry).1 = .ok v ∧
      decodedSupplied (.nested "temperature" .temperature Schema.temperatureColumns) v = .ok e := by
  have decodes : (Registry.decodeEntity .timeBasedValue weatherRow .empty
      strictRegistry).1.toOption.any (fun _ => true) = true := by decide +kernel
  obtain ⟨e, decoded, -⟩ := Outcome.exists_of_any decodes
  obtain ⟨values, supplied, -⟩ := decodeEntity_of_supplied
    (p := .nested "temperature" .temperature Schema.temperatureColumns) isBuiltin_strictRegistry
    isBuiltin_strictRegistry (by decide) (by decide) (by decide) decoded
  obtain ⟨v, value⟩ := values rfl
  exact ⟨e, v, decoded, value, (supplied v value).trans (if_pos (.inl (by decide)))⟩

/-- The irradiance of a weather row cannot be supplied, although it is decoded. -/
theorem not_decoded_of_supplied_irradiance :
    Parameter.nested "irradiance" .irradiance Schema.irradianceColumns ∈
      (Schema.builtin .timeBasedValue).parameters ∧
    (∀ field ∈ Schema.irradianceColumns, weatherRow.contains field = true) ∧
    ∃ e v,
      (Registry.decodeEntity .timeBasedValue weatherRow .empty strictRegistry).1 = .ok e ∧
      ((Parameter.nested "irradiance" .irradiance Schema.irradianceColumns).argument
        Registry.decodeNested weatherRow .empty strictRegistry).1 = .ok v ∧
      ∀ e', decodedSupplied (.nested "irradiance" .irradiance Schema.irradianceColumns) v ≠
        .ok e' := by
  have decodes : (Registry.decodeEntity .timeBasedValue weatherRow .empty
      strictRegistry).1.toOption.any (fun _ => true) = true := by decide +kernel
  have refused : ((Parameter.nested "irradiance" .irradiance Schema.irradianceColumns).argument
      Registry.decodeNested weatherRow .empty strictRegistry).1.toOption.any (fun v =>
        (decodedSupplied (.nested "irradiance" .irradiance
          Schema.irradianceColumns) v).toOption.isNone) = true := by decide +kernel
  obtain ⟨e, decoded, -⟩ := Outcome.exists_of_any decodes
  obtain ⟨v, value, none⟩ := Outcome.exists_of_any refused
  refine ⟨by decide +kernel, by decide, e, v, decoded, value, fun e' supplied => ?_⟩
  rw [supplied] at none
  cases none

end GridRecords
