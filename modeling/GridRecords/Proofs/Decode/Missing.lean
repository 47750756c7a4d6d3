/-
# Rows without a field that they need

A record may lack a field that all rows of its kind need: the field is not there, or its text is
blank and blank text is no value of it.  Such a record is taken for what it was meant to be, since
selection does not ask for the fields of all signatures, and its other parameters find what they
would find anyway.  So the builder is called with one argument absent and refuses it
(`plainConstruct_of_omission`).

The builder is that of the row's kind.  Only the voltage level of a node is built from fields that
its rows need, and refused by a builder of its own (`plainWithin_of_omission`).
-/
import GridRecords.Proofs.Decode.Canonical
import GridRecords.Proofs.Decode.KeptReferences
import GridRecords.Proofs.Decode.Supplied
import GridRecords.Proofs.Schema.Needs

namespace GridRecords

open Decoding

variable {policy : BooleanPolicy} {kind : EntityKind} {field : String} {p : Parameter}
  {r r' : FieldRecord} {c c' : Context} {s : Schema} {signature : Signature} {e : Entity}

/-! ## Records that lack a field -/

/-- A record does not have a field, or the field is blank and no text. -/
def FieldRecord.Lacks (r : FieldRecord) (kind : EntityKind) (field : String) : Prop :=
  r.get? field = none ∨ ((field, LeafKind.text) ∉ kind.leaves ∧ r.IsBlank field)

theorem FieldRecord.Lacks.isBlank (h : r.Lacks kind field) : r.IsBlank field := by
  rcases h with none | ⟨-, blank⟩
  · intro raw found
    rw [none] at found
    cases found
  · exact blank

/-- A record lacks a field, and has all other fields of another record. -/
structure FieldRecord.Omits (r' r : FieldRecord) (kind : EntityKind) (field : String) : Prop where
  lacks : r'.Lacks kind field
  others : ∀ name, name ≠ field → r'.get? name = r.get? name

/-- A field can be left out. -/
theorem FieldRecord.omits_without (r : FieldRecord) (kind : EntityKind) (field : String) :
    (r.without [field]).Omits r kind field where
  lacks := .inl (by rw [get?_without, if_pos List.mem_cons_self])
  others name other := by
    rw [get?_without, if_neg fun mem => other (List.mem_singleton.1 mem)]

/-- A needed field that is no text can be made blank. -/
theorem FieldRecord.omits_insert (essential : field ∈ kind.essential)
    (free : (field, LeafKind.text) ∉ kind.leaves) {blank : String}
    (h : Text.trim blank.toList = []) : (r.insert field blank).Omits r kind field := by
  have lower : ∀ kind ∈ EntityKind.all, ∀ field ∈ kind.essential,
      Text.lowercase field = field := by
    decide +kernel
  have get (name : String) : (r.insert field blank).get? name =
      if name = field then some blank else r.get? name := by
    unfold FieldRecord.get? FieldRecord.insert
    rw [lower kind kind.mem_all field essential, Table.get?_insert]
  refine ⟨.inr ⟨free, fun raw found => ?_⟩, fun name other => ?_⟩
  · rw [get, if_pos rfl] at found
    cases found
    exact h
  · rw [get, if_neg other]

/-- A record and its context lack a field, and say all else that others say. -/
structure Omission (kind : EntityKind) (field : String) (r r' : FieldRecord) (c c' : Context) :
    Prop where
  record : r'.Omits r kind field
  unknown : c'.get? field = none
  others : ∀ name, name ≠ field → c'.get? name = c.get? name

/-- A record that lacks a field itself omits it. -/
theorem Omission.refl (lacks : r.Lacks kind field) (unknown : c.get? field = none) :
    Omission kind field r r c c :=
  ⟨⟨lacks, fun _ _ => rfl⟩, unknown, fun _ _ => rfl⟩

/-- The fields of an embedded entity lack the field if it is one of them. -/
theorem Omission.restrict (h : Omission kind field r r' c c')
    (mem : p ∈ (Schema.builtin kind).parameters) {target : EntityKind} {fields : List String}
    (source : p.source = .nested target fields) (inner : field ∈ fields) :
    Omission target field (r.restrict fields) (r'.restrict fields) (c.restrict fields)
      (c'.restrict fields) := by
  refine ⟨⟨?_, fun name other => ?_⟩, ?_, fun name other => ?_⟩
  · unfold FieldRecord.Lacks FieldRecord.IsBlank
    rw [FieldRecord.get?_restrict, if_pos inner]
    exact h.record.lacks.imp_right fun ⟨free, blank⟩ =>
      ⟨fun text => free (mem_leaves_of_nested mem source inner text), blank⟩
  · rw [FieldRecord.get?_restrict, FieldRecord.get?_restrict, h.record.others name other]
  · rw [Table.get?_restrict, if_pos inner, h.unknown]
  · rw [Table.get?_restrict, Table.get?_restrict, h.others name other]

/-! ## References and selection -/

/-- Whatever can be resolved can be resolved without a field, and with it goes what it refers to. -/
theorem exists_resolve_of_omits {i : ReferenceIndex} {resolution : Resolution}
    (h : r'.Omits r kind field) (resolved : i.resolve (Schema.builtin kind) r = .ok resolution) :
    ∃ resolution', i.resolve (Schema.builtin kind) r' = .ok resolution' ∧
      Omission kind field r r' resolution.context resolution'.context := by
  have nodup := ReferenceIndex.nodup_references kind
  have same {name : String} (other : name ≠ field) (target : EntityKind) :
      i.lookField r' name target = i.lookField r name target := by
    unfold ReferenceIndex.lookField
    rw [h.others name other]
  have absent (target : EntityKind) : i.lookField r' field target = .ok .absent :=
    ReferenceIndex.lookField_absent h.lacks.isBlank
  have all : ∀ reference ∈ (Schema.builtin kind).references,
      ∃ o, i.lookField r' reference.1 reference.2 = .ok o := by
    rintro ⟨name, target⟩ mem
    by_cases other : name = field
    · exact ⟨.absent, other ▸ absent target⟩
    · obtain ⟨o, look⟩ := ReferenceIndex.lookField_of_resolve resolved mem
      exact ⟨o, (same other target).trans look⟩
  have resolved' := ReferenceIndex.resolve_eq_ok_iff.2 ⟨all, rfl⟩
  refine ⟨_, resolved', h, ?_, fun name other => ?_⟩
  · by_cases mem : field ∈ (Schema.builtin kind).references.map Prod.fst
    · obtain ⟨⟨_, target⟩, reference, rfl⟩ := List.mem_map.1 mem
      exact ReferenceIndex.context_of_resolve nodup resolved' reference (absent target)
    · exact ReferenceIndex.context_unreferenced resolved' mem
  · by_cases mem : name ∈ (Schema.builtin kind).references.map Prod.fst
    · obtain ⟨⟨_, target⟩, reference, rfl⟩ := List.mem_map.1 mem
      obtain ⟨o, look⟩ := ReferenceIndex.lookField_of_resolve resolved reference
      rw [ReferenceIndex.context_of_resolve nodup resolved reference look]
      exact ReferenceIndex.context_of_resolve nodup resolved' reference
        ((same other target).trans look)
    · rw [ReferenceIndex.context_unreferenced resolved mem]
      exact ReferenceIndex.context_unreferenced resolved' mem

/-- Selection does not ask for a field of all signatures. -/
theorem Omission.select (h : Omission kind field r r' c c') (shared : field ∈ s.shared)
    (selected : s.select r c = .ok signature) : s.select r' c' = .ok signature := by
  refine Schema.select_of_open selected (filter_sortedNames_eq_iff.2 fun name => ?_)
  simp only [List.mem_filter]
  refine and_congr_left fun open_ => ?_
  show name ∈ s.supplied r c ↔ name ∈ s.supplied r' c'
  have other : name ≠ field := by
    rintro rfl
    simp [shared] at open_
  have record : name ∈ r.keys ↔ name ∈ r'.keys := by
    have same : r.fields.get? name = r'.fields.get? name := (h.record.others name other).symm
    exact (Table.mem_keys_iff _ _).trans (same ▸ (Table.mem_keys_iff _ _).symm)
  have context : name ∈ c.keys ↔ name ∈ c'.keys := by
    rw [Table.mem_keys_iff, Table.mem_keys_iff, h.others name other]
  rw [Schema.mem_supplied, Schema.mem_supplied, record, context]

/-! ## Arguments -/

theorem shared_of_essential (h : field ∈ kind.essential) : field ∈ (Schema.builtin kind).shared :=
  (List.mem_filter.1 h).1

/-- Blank text is no value of what all rows need, texts apart. -/
theorem acceptsBlank_of_essential {leaf : LeafKind} (essential : field ∈ kind.essential)
    (known : (field, leaf) ∈ kind.leaves) : leaf = .text ∨ leaf.acceptsBlank = false := by
  have all : ∀ kind ∈ EntityKind.all, ∀ field ∈ kind.essential, ∀ x ∈ kind.leaves,
      x.1 = field → x.2 = .text ∨ x.2.acceptsBlank = false := by
    decide +kernel
  exact all kind kind.mem_all field essential _ known rfl

/-- The parameter of a field that is lacking is absent, unless an entity is decoded for it. -/
theorem Omission.plainArgument (h : Omission kind field r r' c c')
    (essential : field ∈ kind.essential) (mem : p ∈ (Schema.builtin kind).parameters)
    (consumes : field ∈ p.fields) (plain : p.nestedFields = []) (nested : PlainDecoder) :
    p.name = field ∧ p.plainArgument policy nested r' c' = .ok .null := by
  unfold Parameter.fields at consumes
  unfold Parameter.nestedFields at plain
  unfold Parameter.plainArgument
  cases source : p.source with
  | direct leaf =>
      rw [source] at consumes
      cases List.mem_singleton.1 consumes
      refine ⟨rfl, ?_⟩
      rw [h.unknown]
      cases text : r'.get? p.name with
      | none => rfl
      | some raw =>
          have known := mem_leaves_of_direct mem source
          have accepts : leaf.acceptsBlank = false := by
            rcases acceptsBlank_of_essential essential known with rfl | accepts
            · rcases h.record.lacks with none | ⟨free, -⟩
              · cases none.symm.trans text
              · exact absurd known free
            · exact accepts
          exact decode_eq_ok_iff.2 (.inl ⟨h.record.lacks.isBlank raw text, accepts, rfl⟩)
  | nested target fields =>
      rw [source] at consumes plain
      cases plain
      cases consumes
  | reference target =>
      rw [source] at consumes
      cases List.mem_singleton.1 consumes
      rw [h.unknown]
      exact ⟨rfl, rfl⟩

/-- A parameter with the name of a field of all signatures consumes it. -/
theorem Parameter.name_mem_fields_of_shared (mem : p ∈ (Schema.builtin kind).parameters)
    (shared : p.name ∈ (Schema.builtin kind).shared) : p.name ∈ p.fields := by
  by_contra other
  obtain ⟨rfl, named⟩ := (notMem_fields_iff mem).1 other
  have apart : ∀ name ∈ ["irradiance", "wind"],
      name ∉ (Schema.builtin .timeBasedValue).shared := by
    decide +kernel
  exact apart _ named shared

/-- All other parameters still find something. -/
theorem Omission.exists_step (h : Omission kind field r r' c c')
    (essential : field ∈ kind.essential) (mem : p ∈ (Schema.builtin kind).parameters)
    (consumes : field ∈ p.fields) {nested : PlainDecoder} {a : Arguments}
    (arguments : (Schema.builtin kind).plainArguments signature policy nested r c = .ok a)
    {q : Parameter} (mem' : q ∈ (Schema.builtin kind).parameters) (other : q ≠ p) :
    ∃ y, (Prod.mk q.name <$> if signature.binds q.name then q.plainArgument policy nested r' c'
      else .ok .null) = .ok y := by
  obtain ⟨values, steps, -⟩ := Outcome.map_eq_ok.1 arguments
  obtain ⟨y, step⟩ := Outcome.ok_of_mapM steps q mem'
  have apart : field ∉ q.fields := fun inner =>
    other (Parameter.eq_of_mem_fields mem' mem inner consumes)
  have name : q.name ≠ field := by
    rintro rfl
    exact apart (Parameter.name_mem_fields_of_shared mem' (shared_of_essential essential))
  have same : q.plainArgument policy nested r' c' = q.plainArgument policy nested r c := by
    refine plainArgument_of_own (h.others _ name) (fun inner consumes => ?_) nested
    have ne : inner ≠ field := fun eq => apart (eq ▸ consumes)
    exact ⟨h.record.others _ ne, h.others _ ne⟩
  exact ⟨y, same ▸ step⟩

/-! ## Builders -/

/-- The failure of a builder tells the argument of each parameter. -/
theorem exists_fault {nested : PlainDecoder} {a : Arguments}
    (nodup : (s.parameters.map Parameter.name).Nodup)
    (arguments : s.plainArguments signature policy nested r c = .ok a) (mem : p ∈ s.parameters)
    (f : BuildFault) :
    ∃ told, s.fault a f = .construction s.kind f.message told ∧
      lookupEntry p.name told = some (a.get p.name).display := by
  obtain ⟨values, steps, rfl⟩ := Outcome.map_eq_ok.1 arguments
  obtain ⟨value, -, found⟩ := lookupEntry_of_mapM steps nodup mem
  have names : (values.map fun x => (x.1, x.2.display)).map Prod.fst =
      s.parameters.map Parameter.name := by
    rw [← map_fst_of_mapM steps, List.map_map]
    rfl
  refine ⟨_, rfl, (Table.get?_ofList (names ▸ nodup) p.name).trans ?_⟩
  refine (lookupEntry_map (fun _ => Value.display) p.name values).trans ?_
  rw [found, Arguments.get_eq, found]
  rfl

/-- A refusal of the builder is what construction comes to. -/
theorem plainConstruct_eq_error_of_build {nested : PlainDecoder} {a : Arguments} {f : BuildFault}
    (selected : s.select r c = .ok signature)
    (arguments : s.plainArguments signature policy nested r c = .ok a)
    (refused : signature.build a = .error f) :
    s.plainConstruct policy nested r c = .error (s.fault a f) := by
  unfold Schema.plainConstruct
  rw [selected]
  show (s.plainArguments signature policy nested r c >>= _) = _
  rw [arguments]
  show (signature.build a).mapError (s.fault a) = _
  rw [refused]
  rfl

/-- The builder is called, with one argument absent. -/
theorem Omission.exists_arguments (h : Omission kind field r r' c c')
    (essential : field ∈ kind.essential) (mem : p ∈ (Schema.builtin kind).parameters)
    (consumes : field ∈ p.fields) {nested : PlainDecoder}
    (absent : p.plainArgument policy nested r' c' = .ok .null) {a : Arguments}
    (arguments : (Schema.builtin kind).plainArguments signature policy nested r c = .ok a) :
    ∃ a', (Schema.builtin kind).plainArguments signature policy nested r' c' = .ok a' ∧
      a'.get p.name = .null := by
  have all : ∀ q ∈ (Schema.builtin kind).parameters, ∃ y, (Prod.mk q.name <$>
      if signature.binds q.name then q.plainArgument policy nested r' c' else .ok .null) =
        .ok y := by
    intro q mem'
    by_cases same : q = p
    · refine ⟨(q.name, .null), ?_⟩
      rw [same, absent, ite_self]
      rfl
    · exact h.exists_step essential mem consumes arguments mem' same
  obtain ⟨values, steps⟩ := Outcome.exists_mapM_iff.2 all
  have arguments' : (Schema.builtin kind).plainArguments signature policy nested r' c' =
      .ok ⟨values⟩ := Outcome.map_eq_ok.2 ⟨values, steps, rfl⟩
  have value := argument_of_plainArguments (nodup_parameters kind) arguments' mem
  rw [absent, ite_self] at value
  exact ⟨⟨values⟩, arguments', (Except.ok.inj value).symm⟩

/-- **A builder refuses a record that lacks what it needs**, and its failure tells that the
parameter is absent. -/
theorem plainConstruct_of_omission (h : Omission kind field r r' c c')
    (essential : field ∈ kind.essential) (mem : p ∈ (Schema.builtin kind).parameters)
    (consumes : field ∈ p.fields) (plain : p.nestedFields = []) {nested : PlainDecoder}
    (decoded : (Schema.builtin kind).plainConstruct policy nested r c = .ok e) :
    ∃ reason told, (Schema.builtin kind).plainConstruct policy nested r' c' =
        .error (.construction kind reason told) ∧ lookupEntry field told = some "null" := by
  obtain ⟨signature, selected, a, arguments, -⟩ := plainConstruct_eq_ok.1 decoded
  obtain ⟨rfl, absent⟩ : p.name = field ∧ p.plainArgument policy nested r' c' = .ok .null :=
    h.plainArgument essential mem consumes plain nested
  obtain ⟨a', arguments', null⟩ := h.exists_arguments essential mem consumes absent arguments
  cases built : signature.build a' with
  | ok e' =>
      have needs := Schema.needs_builtin kind signature (mem_signatures_of_select selected) a' e'
        built
      exact absurd null (needs _ (EntityKind.mem_needed essential mem consumes))
  | error f =>
      obtain ⟨told, fault, lookup⟩ := exists_fault (nodup_parameters kind) arguments' mem f
      rw [Schema.kind_builtin] at fault
      have failed := plainConstruct_eq_error_of_build
        (h.select (shared_of_essential essential) selected) arguments' built
      exact ⟨f.message, told, fault ▸ failed, by rw [lookup, null]; rfl⟩

/-- Where an entity of its own kind is built from a field, rows cannot be without it. -/
theorem not_lacks_of_plainConstruct (essential : field ∈ kind.essential)
    (mem : p ∈ (Schema.builtin kind).parameters) (consumes : field ∈ p.fields)
    (plain : p.nestedFields = []) (unknown : c.get? field = none) {nested : PlainDecoder}
    (decoded : (Schema.builtin kind).plainConstruct policy nested r c = .ok e) :
    ¬ r.Lacks kind field := fun lacks => by
  obtain ⟨_, _, failed, -⟩ :=
    plainConstruct_of_omission (.refl lacks unknown) essential mem consumes plain decoded
  cases failed.symm.trans decoded

/-! ## Embedded voltage levels -/

/-- The kind whose builder asks for a field: that of the voltage level for its fields in the rows of
nodes. -/
def EntityKind.holder (kind : EntityKind) (field : String) : EntityKind :=
  if kind = .node ∧ field ∈ Schema.voltageLevelColumns then .voltageLevel else kind

/-- The parameter of a field that all rows need.  The voltage level of a node is all that they need
to have embedded. -/
theorem exists_parameter_of_essential (essential : field ∈ kind.essential) :
    ∃ p ∈ (Schema.builtin kind).parameters, field ∈ p.fields ∧
      ((p.nestedFields = [] ∧ kind.holder field = kind) ∨
        (p.source = .nested .voltageLevel Schema.voltageLevelColumns ∧ p.name ∈ p.fields ∧
          kind.holder field = .voltageLevel ∧ field ∈ EntityKind.voltageLevel.essential)) := by
  have all : ∀ kind ∈ EntityKind.all, ∀ field ∈ kind.essential,
      ∃ p ∈ (Schema.builtin kind).parameters, field ∈ p.fields ∧
        ((p.nestedFields = [] ∧ kind.holder field = kind) ∨
          (p.source = .nested .voltageLevel Schema.voltageLevelColumns ∧ p.name ∈ p.fields ∧
            kind.holder field = .voltageLevel ∧ field ∈ EntityKind.voltageLevel.essential)) := by
    decide +kernel
  exact all kind kind.mem_all field essential

/-- A voltage level has two fields, and its rows need both. -/
theorem voltageLevel_of_omission {depth : Nat} (h : Omission .voltageLevel field r r' c c')
    (essential : field ∈ EntityKind.voltageLevel.essential) (empty : ∀ name, c.get? name = none)
    (empty' : ∀ name, c'.get? name = none) {v : Value}
    (decoded : plainWithin policy (depth + 1) .voltageLevel r c = .ok v) :
    (∃ reason told, plainWithin policy (depth + 1) .voltageLevel r' c' =
        .error (.construction .voltageLevel reason told) ∧ lookupEntry field told = some "null") ∧
      r'.isEmpty = false := by
  have own : ∀ field ∈ EntityKind.voltageLevel.essential,
      ∃ p ∈ (Schema.builtin .voltageLevel).parameters, field ∈ p.fields ∧ p.nestedFields = [] := by
    decide
  obtain ⟨e, built, -⟩ :=
    (plainWithin_succ_eq_ok (Context.OfReferences.of_none empty).known?).1 decoded
  constructor
  · obtain ⟨p, mem, consumes, plain⟩ := own field essential
    obtain ⟨reason, told, failed, lookup⟩ :=
      plainConstruct_of_omission h essential mem consumes plain built
    exact ⟨reason, told,
      plainWithin_succ_eq_error (Context.OfReferences.of_none empty').known? failed, lookup⟩
  · -- the other field is still there
    have two : ∀ field ∈ EntityKind.voltageLevel.essential,
        ∃ other ∈ EntityKind.voltageLevel.essential, other ≠ field := by
      decide
    obtain ⟨other, essential', ne⟩ := two field essential
    obtain ⟨p, mem, consumes, plain⟩ := own other essential'
    have has := not_lacks_of_plainConstruct essential' mem consumes plain (empty other) built
    rw [Bool.eq_false_iff]
    intro nothing
    refine has (.inl ?_)
    rw [← h.record.others other ne]
    exact (Table.isEmpty_iff _).1 nothing other

/-- What is embedded fails as it does on its own. -/
theorem plainArgument_of_nested {target : EntityKind} {fields : List String} {nested : PlainDecoder}
    (source : p.source = .nested target fields) (unknown : c.get? p.name = none)
    (filled : (r.restrict fields).isEmpty = false) :
    p.plainArgument policy nested r c = nested target (r.restrict fields) (c.restrict fields) := by
  unfold Parameter.plainArgument
  rw [unknown]
  simp only [source, filled, Bool.false_and, Bool.false_eq_true, ↓reduceIte]

/-- Where an entity is built, what it needs to have embedded is bound and decoded. -/
theorem exists_embedded_of_needed {target : EntityKind} {fields : List String}
    {nested : PlainDecoder} {a : Arguments} (mem : p ∈ (Schema.builtin kind).parameters)
    (source : p.source = .nested target fields) (unknown : c.get? p.name = none)
    (needed : p.name ∈ kind.needed) (signatures : signature ∈ (Schema.builtin kind).signatures)
    (arguments : (Schema.builtin kind).plainArguments signature policy nested r c = .ok a)
    (built : signature.build a = .ok e) :
    signature.binds p.name = true ∧
      ∃ v, nested target (r.restrict fields) (c.restrict fields) = .ok v := by
  have given := Schema.needs_builtin kind signature signatures a e built _ needed
  have value := argument_of_plainArguments (nodup_parameters kind) arguments mem
  by_cases binds : signature.binds p.name = true
  · rw [if_pos binds] at value
    refine ⟨binds, a.get p.name, ?_⟩
    rcases argument_cases value unknown with
      null | ⟨_, _, direct, -⟩ | ⟨_, _, nested, decoded⟩
    · exact absurd null given
    · cases source.symm.trans direct
    · cases source.symm.trans nested
      exact decoded
  · rw [if_neg binds] at value
    exact absurd (Except.ok.inj value).symm given

/-- An entity is not built where the only argument that fails is bound. -/
theorem plainConstruct_eq_error_of_argument {nested : PlainDecoder} {f : Failure}
    (selected : s.select r c = .ok signature) (mem : p ∈ s.parameters)
    (binds : signature.binds p.name = true) (failed : p.plainArgument policy nested r c = .error f)
    (others : ∀ q ∈ s.parameters, q ≠ p → ∃ y, (Prod.mk q.name <$>
      if signature.binds q.name then q.plainArgument policy nested r c else .ok .null) = .ok y) :
    s.plainConstruct policy nested r c = .error f := by
  have arguments : s.plainArguments signature policy nested r c = .error f := by
    refine Outcome.map_eq_error.2 (Outcome.mapM_eq_error_of_only mem ?_ others)
    rw [if_pos binds, failed]
    rfl
  unfold Schema.plainConstruct
  rw [selected]
  show (s.plainArguments signature policy nested r c >>= _) = _
  rw [arguments]
  rfl

/-- **Without a field that its rows need no entity is decoded.**  The builder that asks for it
fails, and its failure tells that the parameter is absent. -/
theorem plainWithin_of_omission {depth : Nat} (h : Omission kind field r r' c c')
    (essential : field ∈ kind.essential) (refs : c.OfReferences kind)
    (refs' : c'.OfReferences kind) {v : Value}
    (decoded : plainWithin policy (depth + 2) kind r c = .ok v) :
    ∃ reason told, plainWithin policy (depth + 2) kind r' c' =
        .error (.construction (kind.holder field) reason told) ∧
      lookupEntry field told = some "null" := by
  obtain ⟨p, mem, consumes, sort⟩ := exists_parameter_of_essential essential
  obtain ⟨e, built, -⟩ := (plainWithin_succ_eq_ok refs.known?).1 decoded
  rcases sort with ⟨plain, holder⟩ | ⟨source, own, holder, inner⟩
  · obtain ⟨reason, told, failed, lookup⟩ :=
      plainConstruct_of_omission h essential mem consumes plain built
    rw [holder]
    exact ⟨reason, told, plainWithin_succ_eq_error refs'.known? failed, lookup⟩
  · obtain ⟨signature, selected, a, arguments, accepted⟩ := plainConstruct_eq_ok.1 built
    have fields : p.fields = Schema.voltageLevelColumns := by rw [Parameter.fields, source]
    have nestedFields : p.nestedFields = Schema.voltageLevelColumns := by
      rw [Parameter.nestedFields, source]
    have unreferenced := unreferenced_of_nested mem (nestedFields ▸ fields ▸ own)
    -- the voltage level was decoded from its fields, and no longer is
    obtain ⟨binds, v, level⟩ := exists_embedded_of_needed mem source (refs.other _ unreferenced)
      (EntityKind.mem_needed essential mem consumes) (mem_signatures_of_select selected) arguments
      accepted
    obtain ⟨⟨reason, told, failed, lookup⟩, filled⟩ :=
      voltageLevel_of_omission (h.restrict mem source (fields ▸ consumes)) inner
        (nestedFields ▸ restrict_nestedFields refs mem)
        (nestedFields ▸ restrict_nestedFields refs' mem) level
    have failed' : p.plainArgument policy (plainWithin policy (depth + 1)) r' c' = _ :=
      (plainArgument_of_nested source (refs'.other _ unreferenced) filled).trans failed
    rw [holder]
    refine ⟨reason, told, plainWithin_succ_eq_error refs'.known? ?_, lookup⟩
    refine plainConstruct_eq_error_of_argument (h.select (shared_of_essential essential) selected)
      mem binds failed' fun q mem' other => ?_
    exact h.exists_step essential mem consumes arguments mem' other

/-! ## Rows and batches -/

theorem plainRow_of_omits {i : ReferenceIndex} {kept : Entity × List Substitution}
    (essential : field ∈ kind.essential) (h : r'.Omits r kind field)
    (decoded : i.plainRow policy kind r = .ok kept) :
    ∃ reason told, i.plainRow policy kind r' =
        .error (.construction (kind.holder field) reason told) ∧
      lookupEntry field told = some "null" := by
  unfold ReferenceIndex.plainRow at decoded ⊢
  obtain ⟨resolution, resolved, decoded⟩ := Outcome.bind_eq_ok.1 decoded
  obtain ⟨e, entity, -⟩ := Outcome.bind_eq_ok.1 decoded
  obtain ⟨resolution', resolved', omission⟩ := exists_resolve_of_omits h resolved
  obtain ⟨v, within, -⟩ := Outcome.bind_eq_ok.1 entity
  replace within : plainWithin policy (16 + 2) kind r resolution.context = .ok v := within
  obtain ⟨reason, told, failed, lookup⟩ := plainWithin_of_omission omission essential
    (.of_resolve resolved) (.of_resolve resolved') within
  refine ⟨reason, told, ?_, lookup⟩
  rw [resolved']
  show (plainEntity policy kind r' resolution'.context >>= _) = _
  rw [plainEntity_eq_error failed]
  rfl

/-- **A row that lacks a field which its kind needs is refused by the builder.**  If the row is
decoded with the field, it fails without it as a construction, and the failure tells that the
parameter of the field is absent.  It is the construction of a voltage level for the two fields of
one in the rows of nodes, else that of the row's own kind.  So no row that a batch keeps lacks such
a field. -/
theorem construction_of_omits {registry registry' : Registry} (builtin : registry.IsBuiltin policy)
    (builtin' : registry'.IsBuiltin policy) (i : ReferenceIndex)
    (essential : field ∈ kind.essential) :
    (∀ r r' kept, r'.Omits r kind field →
      (i.decodeRow (Schema.builtin kind) kind r registry).1 = .ok kept →
        ∃ reason told, (i.decodeRow (Schema.builtin kind) kind r' registry').1 =
            .error (.construction (kind.holder field) reason told) ∧
          lookupEntry field told = some "null") ∧
    ∀ failFast rows o, (i.decodeBatch failFast kind rows registry).1 = .ok o →
      o.items = (i.keptRows registry kind rows).map KeptRow.entity ∧
        ∀ k ∈ i.keptRows registry kind rows, ¬ k.record.Lacks kind field := by
  constructor
  · intro r r' kept h decoded
    rw [ComesTo.eq (yields_decodeRow i kind r) builtin] at decoded
    rw [ComesTo.eq (yields_decodeRow i kind r') builtin']
    exact plainRow_of_omits essential h decoded
  · intro failFast rows o decoded
    have rows' := (decodeBatch_eq builtin _ _ _).symm.trans decoded
    refine ⟨(BatchOutcome.ofRows_eq_ok rows').1.trans (items_eq_keptRows builtin), ?_⟩
    intro k kept lacks
    obtain ⟨-, -, -, substitutions, row⟩ := mem_keptRows builtin kept
    obtain ⟨_, _, failed, -⟩ := plainRow_of_omits essential ⟨lacks, fun _ _ => rfl⟩ row
    cases failed.symm.trans row

/-- What a row of a node comes to without a field. -/
def decodedNode (r : FieldRecord) : Except Failure (Entity × List Substitution) :=
  (ReferenceIndex.empty.decodeRow (Schema.builtin .node) .node r strictRegistry).1

/-- A node is refused with a blank target voltage, and its voltage level without the rated one. -/
theorem construction_of_omits_nodeRow :
    (∃ reason told, decodedNode ((nodeRow "0.4").insert "vtarget" " ") =
        .error (.construction .node reason told) ∧ lookupEntry "vtarget" told = some "null") ∧
      ∃ reason told, decodedNode ((nodeRow "0.4").without ["vrated"]) =
        .error (.construction .voltageLevel reason told) ∧
          lookupEntry "vrated" told = some "null" := by
  have decodes : (decodedNode (nodeRow "0.4")).toOption.any (fun _ => true) = true := by
    decide +kernel
  obtain ⟨kept, decoded, -⟩ := Outcome.exists_of_any decodes
  have target : "vtarget" ∈ EntityKind.node.essential := by decide +kernel
  have rated : "vrated" ∈ EntityKind.node.essential := by decide +kernel
  exact ⟨(construction_of_omits isBuiltin_strictRegistry isBuiltin_strictRegistry _ target).1 _ _
      kept (FieldRecord.omits_insert target (by decide) (by decide)) decoded,
    (construction_of_omits isBuiltin_strictRegistry isBuiltin_strictRegistry _ rated).1 _ _
      kept (FieldRecord.omits_without _ _ _) decoded⟩

end GridRecords
