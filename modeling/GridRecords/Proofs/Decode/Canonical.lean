/-
# Rows in canonical spelling

A row that is decoded and written again has the same fields: the text of each leaf field, of the
kind itself or of an entity embedded in its rows, is what the leaf kind of the field writes for
what it reads (`LeafKind.canonical`), and a field that the row lacks stays without text.

Three things come together.  No field of a record is left out, because the selected signature
binds its parameter (`mem_columnNames_of_field`).  Each column stands for what the record says in
the field of its name (`Entity.Mirrors`), which passes from embedded entities to the entity that
embeds them.  And the leaf kind of a field writes a value as its column does, since the field is
read, held and written in one unit (`encode_iff_of_decode`).
-/
import GridRecords.Proofs.Decode.WriteBack
import GridRecords.Proofs.Row.RowOf
import GridRecords.Proofs.Schema.Columns
import GridRecords.Proofs.Schema.Rows

namespace GridRecords

variable {policy : BooleanPolicy} {kind : EntityKind} {r : FieldRecord} {c : Context}
  {leaf : LeafKind} {field : String}

/-! ## Leaf fields -/

/-- The fields that hold the text of one value each. -/
def Schema.directLeaves (s : Schema) : List (String × LeafKind) :=
  s.parameters.filterMap fun p =>
    match p.source with
    | .direct leaf => some (p.name, leaf)
    | .nested .. | .reference _ => none

/-- The leaf fields of a parameter: its own, or those of the entity that is decoded for it. -/
def Parameter.leaves (p : Parameter) : List (String × LeafKind) :=
  match p.source with
  | .direct leaf => [(p.name, leaf)]
  | .nested target fields =>
    (Schema.builtin target).directLeaves.filter fun x => fields.contains x.1
  | .reference _ => []

/-- The leaf fields of the rows of a kind, those of embedded entities among them. -/
def EntityKind.leaves (kind : EntityKind) : List (String × LeafKind) :=
  (Schema.builtin kind).parameters.flatMap Parameter.leaves

/-- Every field that a schema knows is a leaf field or a reference. -/
theorem mem_leaves_or_references (h : field ∈ (Schema.builtin kind).known) :
    field ∈ kind.leaves.map Prod.fst ∨
      field ∈ (Schema.builtin kind).references.map Prod.fst := by
  have all : ∀ kind ∈ EntityKind.all, ∀ field ∈ (Schema.builtin kind).known,
      field ∈ kind.leaves.map Prod.fst ∨
        field ∈ (Schema.builtin kind).references.map Prod.fst := by decide +kernel
  exact all kind kind.mem_all field h

theorem mem_directLeaves {s : Schema} :
    (field, leaf) ∈ s.directLeaves ↔
      ∃ p ∈ s.parameters, p.name = field ∧ p.source = .direct leaf := by
  unfold Schema.directLeaves
  rw [List.mem_filterMap]
  refine exists_congr fun p => and_congr_right fun _ => ?_
  cases p.source <;> simp

theorem Parameter.mem_leaves {p : Parameter} :
    (field, leaf) ∈ p.leaves ↔ (p.name = field ∧ p.source = .direct leaf) ∨
      ∃ target fields, p.source = .nested target fields ∧ field ∈ fields ∧
        (field, leaf) ∈ (Schema.builtin target).directLeaves := by
  unfold leaves
  cases source : p.source with
  | direct other => simp [eq_comm]
  | nested target fields => simp [and_comm]
  | reference target => simp

/-- A leaf field is consumed by the parameter that it belongs to. -/
theorem Parameter.mem_fields_of_mem_leaves {p : Parameter} (h : (field, leaf) ∈ p.leaves) :
    field ∈ p.fields := by
  unfold fields
  rcases mem_leaves.1 h with ⟨rfl, source⟩ | ⟨target, fields, source, mem, -⟩
  · rw [source]
    exact List.mem_singleton_self _
  · rw [source]
    exact mem

/-- The field of a parameter that is read from it is a leaf field. -/
theorem mem_leaves_of_direct {p : Parameter} (mem : p ∈ (Schema.builtin kind).parameters)
    (source : p.source = .direct leaf) : (p.name, leaf) ∈ kind.leaves :=
  List.mem_flatMap.2 ⟨p, mem, Parameter.mem_leaves.2 (.inl ⟨rfl, source⟩)⟩

/-- The leaf fields of an embedded entity are leaf fields of the rows that it is embedded in. -/
theorem mem_leaves_of_nested {p : Parameter} (mem : p ∈ (Schema.builtin kind).parameters)
    {target : EntityKind} {fields : List String} (source : p.source = .nested target fields)
    (inner : field ∈ fields) (h : (field, leaf) ∈ target.leaves) :
    (field, leaf) ∈ kind.leaves := by
  obtain ⟨q, known, leaves⟩ := List.mem_flatMap.1 h
  refine List.mem_flatMap.2 ⟨p, mem, Parameter.mem_leaves.2
    (.inr ⟨target, fields, source, inner, mem_directLeaves.2 ⟨q, known, ?_⟩⟩)⟩
  rcases Parameter.mem_leaves.1 leaves with own | ⟨_, _, deeper, -⟩
  · exact own
  · -- nothing is embedded in what is itself embedded
    have flat := nestedKinds_of_embedded (Schema.mem_nestedKinds mem source)
    have kinds := Schema.mem_nestedKinds known deeper
    rw [flat] at kinds
    cases kinds

/-! ## Values and texts -/

/-- The text that a leaf kind writes for what it reads. -/
def LeafKind.canonical (leaf : LeafKind) (policy : BooleanPolicy) (raw : String) :
    Except Failure String := do
  leaf.encode (← leaf.decode policy raw)

/-- What a record says in a leaf field; a field that it lacks says nothing. -/
def FieldRecord.leafValue (r : FieldRecord) (policy : BooleanPolicy) (leaf : LeafKind)
    (field : String) : Except Failure Value :=
  match r.get? field with
  | some raw => leaf.decode policy raw
  | none => .ok .null

/-- A value stands for itself, and for the absent value if it has no text. -/
def Value.StandsFor (v given : Value) : Prop := v = given ∨ given = .null ∧ v.rowText? = some ""

/-- A leaf kind writes what it has read as the text of the value. -/
theorem encode_iff_of_decode {raw text : String} {v : Value} (h : leaf.decode policy raw = .ok v) :
    leaf.encode v = .ok text ↔ v.rowText? = some text := by
  rcases decode_eq_ok_iff.1 h with ⟨-, -, rfl⟩ | ⟨-, read⟩
  · simp [LeafKind.encode, Value.rowText?]
  · cases leaf with
    | quantity unit =>
        simp only [LeafKind.readValue, Outcome.mapError_eq_ok, Outcome.exceptMap_eq_ok] at read
        obtain ⟨q, read, rfl⟩ := read
        obtain ⟨given, -, held⟩ := Quantity.read_eq_ok_iff.1 read
        -- the quantity is in the unit of its field already
        have same := Quantity.convert_self (Quantity.unit_of_convert held)
        simp only [LeafKind.encode, LeafKind.quantityText, same, Value.rowText?,
          Outcome.mapError_eq_ok]
        cases amountText? q.value <;> simp
    | boolean =>
        simp only [LeafKind.readValue] at read
        split at read
        · cases read
          simp [LeafKind.encode, Value.rowText?]
        · cases read
    | text =>
        cases read
        simp [LeafKind.encode, Value.rowText?]
    | integer | uuid | timestamp | geoPoint =>
        simp only [LeafKind.readValue, Outcome.mapError_eq_ok, Outcome.exceptMap_eq_ok] at read
        obtain ⟨x, -, rfl⟩ := read
        simp [LeafKind.encode, Value.rowText?]

/-- **A column that stands for what its field was read as has the canonical text of the field.** -/
theorem Value.StandsFor.canonical {raw text : String} {v given : Value} (h : v.StandsFor given)
    (read : leaf.decode policy raw = .ok given) (written : v.rowText? = some text) :
    leaf.canonical policy raw = .ok text := by
  have value : given.rowText? = some text := by
    rcases h with rfl | ⟨rfl, blank⟩
    · exact written
    · rw [← written, blank]
      rfl
  unfold LeafKind.canonical
  rw [Outcome.bind_eq_ok]
  exact ⟨given, read, (encode_iff_of_decode read).2 value⟩

/-- What is kept in the unit in which it was given is the value that was given, or a placeholder
without text. -/
theorem Value.KeptAs.standsFor {v given : Value} (h : given.KeptAs v)
    (unit : ∀ q q', given = .quantity q → v = .quantity q' → q'.unit = q.unit) :
    v.StandsFor given := by
  cases h with
  | same v => exact .inl rfl
  | noOperator | noText | noPosition => exact .inr ⟨rfl, rfl⟩
  | held converted =>
      rename_i q q' target
      have same : q.unit = target := (unit q q' rfl rfl).symm.trans converted.unit_eq
      have unchanged : q.convert target = .ok q := Quantity.convert_self same
      rw [HeldAs, unchanged] at converted
      cases converted
      exact .inl rfl

/-! ## No field is left out -/

/-- An entity has a column for each field of the parameters it was built from. -/
theorem mem_columnNames_of_binds {signature : Signature} {a : Arguments} {e : Entity}
    (mem : signature ∈ (Schema.builtin kind).signatures) (build : signature.build a = .ok e)
    {p : Parameter} (known : p ∈ (Schema.builtin kind).parameters)
    (binds : signature.binds p.name = true) (consumes : field ∈ p.fields) :
    field ∈ e.columnNames := by
  have same := (Schema.keeps_builtin kind signature mem a e build).1
  rw [Schema.kind_builtin] at same
  subst same
  refine Schema.mem_columnNames_iff.2 ⟨p, known, ?_, consumes⟩
  by_cases series : e.kind = .timeBasedValue
  · -- a value has the columns of its family, which is that of the signature
    rw [series] at mem
    obtain ⟨family, rfl⟩ := Schema.mem_signatures_timeBasedValue mem
    simp only [Schema.familySignature, Outcome.bind_eq_ok, Outcome.pure_eq_ok] at build
    obtain ⟨payload, given, uuid, -, time, -, rfl⟩ := build
    obtain ⟨signature, -, -, exactly, ofFamily⟩ :=
      Schema.exists_signature_of_columns (.timeBasedValue ⟨uuid, time, payload⟩)
    cases ofFamily _ rfl
    rw [← exactly p known]
    cases Schema.family_of_payload given
    exact binds
  · obtain ⟨-, -, -, plain⟩ := Schema.needed_of_shape _ e.mem_columnShapes
    exact plain series p known

/-! ## Columns and fields -/

/-- The columns of an entity stand for what the leaf fields of a record say. -/
def Entity.Mirrors (e : Entity) (policy : BooleanPolicy) (r : FieldRecord) : Prop :=
  ∀ field leaf, (field, leaf) ∈ e.kind.leaves → ∀ v, (field, v) ∈ e.columns →
    ∃ given, r.leafValue policy leaf field = .ok given ∧ v.StandsFor given

/-- A decoder for embedded entities mirrors the records that it is given. -/
def PlainDecoder.Mirrors (nested : PlainDecoder) (policy : BooleanPolicy) : Prop :=
  ∀ target r c x, Context.OfReferences c target → nested target r c = .ok (.entity x) →
    x.Mirrors policy r

section

variable {nested : PlainDecoder} {signature : Signature} {a : Arguments} {p : Parameter}

/-- The argument for a leaf field is what the record says in it. -/
theorem argument_eq_leafValue (refs : c.OfReferences kind)
    (select : (Schema.builtin kind).select r c = .ok signature)
    (arguments : (Schema.builtin kind).plainArguments signature policy nested r c = .ok a)
    (known : p ∈ (Schema.builtin kind).parameters) (direct : p.source = .direct leaf) :
    r.leafValue policy leaf p.name = .ok (a.get p.name) := by
  have consumes := Parameter.name_mem_fields (p := p) (by simp [direct])
  have unknown : c.get? p.name = none := by
    refine refs.other _ fun reference => ?_
    obtain ⟨⟨name, target⟩, mem, named⟩ := List.mem_map.1 reference
    obtain ⟨q, known', rfl, source⟩ := exists_parameter_of_reference mem
    rw [← Parameter.eq_of_name known known' named.symm, direct] at source
    cases source
  have argument := argument_of_plainArguments (nodup_parameters kind) arguments known
  unfold Parameter.plainArgument at argument
  simp only [unknown, direct] at argument
  unfold FieldRecord.leafValue
  cases text : r.get? p.name with
  | none =>
      rw [text, ite_self] at argument
      exact argument
  | some raw =>
      have supplied : p.name ∈ r.keys := (Table.mem_keys_iff _ _).2 ⟨raw, text⟩
      rw [text, if_pos (binds_of_select select known consumes (.inl supplied))] at argument
      exact argument

/-- A quantity that a record says in a leaf field is in the unit of the leaf kind. -/
theorem unit_of_leafValue {q : Quantity}
    (h : r.leafValue policy leaf field = .ok (.quantity q)) : leaf = .quantity q.unit := by
  unfold FieldRecord.leafValue at h
  split at h
  · obtain ⟨unit, rfl, read⟩ := quantity_of_decode h
    obtain ⟨given, -, held⟩ := Quantity.read_eq_ok_iff.1 read
    rw [Quantity.unit_of_convert held]
  · cases h

/-- A leaf field with a column of the entity itself is that of a parameter. -/
theorem direct_of_ownColumns {e : Entity} {v : Value} (own : (field, v) ∈ e.ownColumns)
    (h : (field, leaf) ∈ e.kind.leaves) :
    ∃ p ∈ (Schema.builtin e.kind).parameters, p.name = field ∧ p.source = .direct leaf := by
  obtain ⟨p, known, mem⟩ := List.mem_flatMap.1 h
  rcases Parameter.mem_leaves.1 mem with ⟨named, direct⟩ | ⟨target, fields, source, -, -⟩
  · exact ⟨p, known, named, direct⟩
  · -- the column is read by a parameter that consumes its field, and one parameter only does that
    obtain ⟨q, found, accepts⟩ := e.typed_ownColumns _ own
    obtain ⟨known', named⟩ := Schema.parameter?_eq_some found
    have consumes : q.name ∈ q.fields := by
      refine Parameter.name_mem_fields fun target fields nested => ?_
      rw [nested] at accepts
      exact accepts.elim
    rw [named] at consumes
    have same := Parameter.eq_of_mem_fields known known' (Parameter.mem_fields_of_mem_leaves mem)
      consumes
    rw [← same, source] at accepts
    exact accepts.elim

/-- A leaf field with a column of an embedded entity is one of that entity. -/
theorem mem_leaves_of_embedded {e : Entity} {x : String × Entity} (part : x ∈ e.embedded)
    (column : field ∈ x.2.columnNames) (h : (field, leaf) ∈ e.kind.leaves) :
    (field, leaf) ∈ x.2.kind.leaves := by
  obtain ⟨p, found, source⟩ := Entity.nestedParameter part
  obtain ⟨known, -⟩ := Schema.parameter?_eq_some found
  have consumes : field ∈ p.fields := by
    unfold Parameter.fields
    rw [source]
    exact column
  obtain ⟨q, known', mem⟩ := List.mem_flatMap.1 h
  have same := Parameter.eq_of_mem_fields known known' consumes
    (Parameter.mem_fields_of_mem_leaves mem)
  subst same
  rcases Parameter.mem_leaves.1 mem with ⟨-, direct⟩ | ⟨target, fields, nested, -, inner⟩
  · rw [source] at direct
    cases direct
  · rw [source] at nested
    cases nested
    obtain ⟨q, known, rfl, direct⟩ := mem_directLeaves.1 inner
    exact mem_leaves_of_direct known direct

/-- What is embedded in a constructed entity mirrors the fields of its parameter. -/
theorem mirrors_of_embedded (mirrors : nested.Mirrors policy) {e : Entity}
    (refs : c.OfReferences e.kind)
    (arguments : (Schema.builtin e.kind).plainArguments signature policy nested r c = .ok a)
    {x : String × Entity} (part : x ∈ e.embedded) (value : a.get x.1 = .entity x.2) :
    x.2.Mirrors policy (r.restrict x.2.columnNames) := by
  have given : a.get x.1 ≠ .null := by
    rw [value]
    simp
  obtain ⟨p, known, named, argument⟩ := exists_plainArgument (nodup_parameters _) arguments given
  obtain ⟨q, found, source⟩ := Entity.nestedParameter part
  obtain ⟨known', named'⟩ := Schema.parameter?_eq_some found
  cases Parameter.eq_of_name known known' (named.trans named'.symm)
  have unknown : c.get? p.name = none := by
    refine refs.other _ ?_
    rw [named]
    exact unreferenced_of_embedded part
  have fields : p.nestedFields = x.2.columnNames := by
    unfold Parameter.nestedFields
    rw [source]
  have none := restrict_nestedFields refs known
  rw [fields] at none
  rw [value] at argument
  rcases argument_cases argument unknown with null | ⟨leaf, raw, direct, -, -⟩ |
      ⟨target, fields, same, inner⟩
  · cases null
  · rw [source] at direct
    cases direct
  · rw [source] at same
    cases same
    exact mirrors _ _ _ _ (.of_none none) inner

/-- A constructed entity mirrors its record if those embedded in it mirror their fields. -/
theorem mirrors_of_plainConstruct {e : Entity} (mirrors : nested.Mirrors policy)
    (refs : c.OfReferences kind) (units : e.UnitsHeld)
    (h : (Schema.builtin kind).plainConstruct policy nested r c = .ok e) : e.Mirrors policy r := by
  obtain ⟨signature, select, a, arguments, build⟩ := plainConstruct_eq_ok.1 h
  obtain ⟨same, kept⟩ :=
    Schema.keeps_builtin kind signature (mem_signatures_of_select select) a e build
  rw [Schema.kind_builtin] at same
  subst same
  intro field leaf mem v column
  rcases Entity.mem_columns_iff.1 column with own | ⟨x, part, inner⟩
  · obtain ⟨p, known, rfl, direct⟩ := direct_of_ownColumns own mem
    have said := argument_eq_leafValue refs select arguments known direct
    refine ⟨a.get p.name, said, (kept.columns _ own).standsFor ?_⟩
    rintro q q' given rfl
    rw [given] at said
    rw [unit_of_leafValue said] at direct
    refine units.unit_eq known ?_ own
    unfold Parameter.declaredUnit?
    rw [direct]
  · have name : field ∈ x.2.columnNames := by
      rw [← Entity.map_fst_columns]
      exact List.mem_map_of_mem inner
    obtain ⟨given, said, stands⟩ := mirrors_of_embedded mirrors refs arguments part
      (kept.embedded x part) field leaf (mem_leaves_of_embedded part name mem) v inner
    refine ⟨given, ?_, stands⟩
    have restricted : (r.restrict x.2.columnNames).get? field = r.get? field :=
      (FieldRecord.get?_restrict _ _ _).trans (if_pos name)
    unfold FieldRecord.leafValue at said ⊢
    rw [restricted] at said
    exact said

end

/-- **What is decoded in a context of references mirrors the record.** -/
theorem mirrors_of_plainWithin {depth : Nat} {e : Entity} (refs : c.OfReferences kind)
    (h : plainWithin policy depth kind r c = .ok (.entity e)) : e.Mirrors policy r := by
  induction depth generalizing kind r c e with
  | zero => cases h
  | succ depth ih =>
      obtain ⟨e, built, same⟩ := (plainWithin_succ_eq_ok refs.known?).1 h
      cases same
      have reads : PlainDecoder.Reads (plainWithin policy depth) := by
        intro target r c v refs h
        obtain ⟨x, eq, -, read⟩ := readFrom_of_plainWithin refs h
        exact ⟨x, eq, read⟩
      obtain ⟨-, read⟩ := readFrom_of_plainConstruct reads refs built
      refine mirrors_of_plainConstruct ?_ refs (read.checked.unitsHeld read.parts) built
      intro target r c x refs h
      exact ih refs h

theorem mirrors_of_plainEntity {e : Entity} (refs : c.OfReferences kind)
    (h : plainEntity policy kind r c = .ok e) : e.Mirrors policy r := by
  unfold plainEntity at h
  obtain ⟨v, decoded, kept⟩ := Outcome.bind_eq_ok.1 h
  obtain ⟨x, rfl, -⟩ := readFrom_of_plainWithin refs decoded
  cases Outcome.pure_eq_ok.1 kept
  exact mirrors_of_plainWithin refs decoded

/-! ## Rows -/

/-- An entity has a column for each leaf field that its record has. -/
theorem mem_columnNames_of_field {nested : PlainDecoder} {e : Entity}
    (h : (Schema.builtin kind).plainConstruct policy nested r c = .ok e)
    (known : (field, leaf) ∈ kind.leaves) (supplied : field ∈ r.keys) :
    field ∈ e.columnNames := by
  obtain ⟨signature, select, a, -, build⟩ := plainConstruct_eq_ok.1 h
  obtain ⟨p, parameter, mem⟩ := List.mem_flatMap.1 known
  have consumes := Parameter.mem_fields_of_mem_leaves mem
  exact mem_columnNames_of_binds (mem_signatures_of_select select) build parameter
    (binds_of_select select parameter consumes (.inl supplied)) consumes

/-- The text of a column that stands for what a record says in a leaf field. -/
theorem get?_flatten_of_mirrors {e : Entity} {flat : FlatRecord} (mirrors : e.Mirrors policy r)
    (units : e.UnitsHeld) (written : e.flatten = .ok flat)
    (known : (field, leaf) ∈ e.kind.leaves) (column : field ∈ e.columnNames) :
    ∃ (v : Value) (text : String) (given : Value), flat.get? field = some text ∧
      v.rowText? = some text ∧ r.leafValue policy leaf field = .ok given ∧
        v.StandsFor given := by
  rw [← Entity.map_fst_columns] at column
  obtain ⟨⟨name, v⟩, mem, rfl⟩ := List.mem_map.1 column
  obtain ⟨text, value, found⟩ := Entity.exists_rowText? units written mem
  obtain ⟨given, said, stands⟩ := mirrors _ _ known v mem
  exact ⟨v, text, given, found, value, said, stands⟩

/-- **A row that is decoded and written again is the row in canonical spelling.**  Each leaf field
that the record has is written under its own name, as what its leaf kind writes for what it reads;
one that the record lacks has no text.  Besides leaf fields, references are all that is written. -/
theorem get?_flatten_of_decodeEntity {i : ReferenceIndex} {resolution : Resolution}
    {registry : Registry} {e : Entity} {flat : FlatRecord} (builtin : registry.IsBuiltin policy)
    (resolved : i.resolve (Schema.builtin kind) r = .ok resolution)
    (decoded : (Registry.decodeEntity kind r resolution.context registry).1 = .ok e)
    (written : e.flatten = .ok flat) :
    (∀ field leaf, (field, leaf) ∈ kind.leaves →
      (∀ raw, r.get? field = some raw →
        ∃ text, leaf.canonical policy raw = .ok text ∧ flat.get? field = some text) ∧
      (r.get? field = none → flat.get? field = none ∨ flat.get? field = some "")) ∧
    ∀ field text, flat.get? field = some text →
      field ∈ kind.leaves.map Prod.fst ∨
        field ∈ (Schema.builtin kind).references.map Prod.fst := by
  obtain ⟨after, run, -⟩ := yields_decodeEntity kind r resolution.context registry builtin
  rw [run] at decoded
  have refs := Context.OfReferences.of_resolve resolved
  obtain ⟨rfl, read⟩ := readFrom_of_plainEntity refs decoded
  have mirrors := mirrors_of_plainEntity refs decoded
  have units := read.checked.unitsHeld read.parts
  refine ⟨fun field leaf known => ⟨?_, ?_⟩, ?_⟩
  · intro raw has
    have supplied : field ∈ r.keys := (Table.mem_keys_iff _ _).2 ⟨raw, has⟩
    have column :=
      mem_columnNames_of_field ((plainEntity_eq_ok refs.known?).1 decoded) known supplied
    obtain ⟨v, text, given, found, value, said, stands⟩ :=
      get?_flatten_of_mirrors mirrors units written known column
    unfold FieldRecord.leafValue at said
    rw [has] at said
    exact ⟨text, stands.canonical said value, found⟩
  · intro lacks
    by_cases column : field ∈ e.columnNames
    · obtain ⟨v, text, given, found, value, said, stands⟩ :=
        get?_flatten_of_mirrors mirrors units written known column
      unfold FieldRecord.leafValue at said
      rw [lacks] at said
      cases said
      -- what stands for the absent value has no text
      have blank : v.rowText? = some "" := by
        rcases stands with rfl | ⟨-, blank⟩
        · rfl
        · exact blank
      rw [value] at blank
      exact .inr (found.trans blank)
    · exact .inl ((Entity.get?_flatten written).2 field column)
  · intro field text found
    have column : field ∈ e.kind.columnNames e.family := by
      by_contra absent
      rw [(Entity.get?_flatten written).2 field absent] at found
      cases found
    exact mem_leaves_or_references (Schema.known_of_column column)

/-- A thermal power of 42 MW is written in kilowatts. -/
theorem get?_flatten_of_decoded_plantType :
    ∃ e flat, decodedPlantType? "42 MW" = some e ∧ e.flatten = .ok flat ∧
      flat.get? "pthermal" = some "42000.0" := by
  have writes : ((decodedPlantType? "42 MW").any fun e => e.flatten.toOption.isSome) = true := by
    decide +kernel
  obtain ⟨e, found, flattened⟩ := (Option.any_eq_true _ _).1 writes
  obtain ⟨resolution, resolved, decoded⟩ := decodedPlantType?_eq_some found
  cases written : e.flatten with
  | error f =>
      rw [written] at flattened
      cases flattened
  | ok flat =>
      have known : ("pthermal", LeafKind.quantity .kilowatt) ∈ EntityKind.chpType.leaves := by
        decide
      obtain ⟨leaves, -⟩ :=
        get?_flatten_of_decodeEntity isBuiltin_strictRegistry resolved decoded written
      obtain ⟨text, canonical, column⟩ := (leaves _ _ known).1 "42 MW" (by decide)
      have spelled : (LeafKind.quantity .kilowatt).canonical .strict "42 MW" = .ok "42000.0" := by
        decide +kernel
      rw [spelled] at canonical
      cases canonical
      exact ⟨e, flat, found, written, column⟩

end GridRecords
