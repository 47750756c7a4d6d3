/-
# References that are kept

A reference of a row that is kept either is held by the decoded entity or is noted as a
substitution, with one exception: an unknown energy manager is left out without a note, since an
entity may have none.

The argument follows one reference through the steps of a row: what it is looked up as
(`ReferenceIndex.find_cases`), that what the context knows of it becomes its argument
(`get_of_reference`), and what the builder makes of its argument (`Schema.keeps_builtin`).
-/
import GridRecords.Proofs.Batch
import GridRecords.Proofs.Decode.Index
import GridRecords.Proofs.Decode.WriteBack
import GridRecords.Proofs.Schema.Columns

namespace GridRecords

variable {policy : BooleanPolicy} {kind : EntityKind} {r : FieldRecord} {c : Context}

/-! ## From the record to the column -/

/-- The argument of a reference is what the context knows of it, and nothing else. -/
theorem get_of_reference {nested : PlainDecoder} {signature : Signature} {a : Arguments}
    (select : (Schema.builtin kind).select r c = .ok signature)
    (arguments : (Schema.builtin kind).plainArguments signature policy nested r c = .ok a)
    {name : String} {target : EntityKind}
    (reference : (name, target) ∈ (Schema.builtin kind).references) :
    a.get name = (c.get? name).getD .null := by
  obtain ⟨p, known, rfl, source⟩ := exists_parameter_of_reference reference
  have consumes := Parameter.name_mem_fields (p := p) (by simp [source])
  have argument := argument_of_plainArguments (nodup_parameters _) arguments known
  cases found : c.get? p.name with
  | some x =>
      -- the signature was chosen by what the context supplies, so it binds the reference
      have supplied : p.name ∈ c.keys := (Table.mem_keys_iff c p.name).2 ⟨x, found⟩
      rw [if_pos (binds_of_select select known consumes (.inr supplied))] at argument
      unfold Parameter.plainArgument at argument
      rw [found] at argument
      exact (Except.ok.inj argument).symm
  | none =>
      have absent : p.plainArgument policy nested r c = .ok .null := by
        unfold Parameter.plainArgument
        rw [found, source]
      rw [absent, ite_self] at argument
      exact (Except.ok.inj argument).symm

/-- The column of a reference stands for what the context knows of it. -/
theorem keptAs_of_reference {nested : PlainDecoder} {e : Entity} {name : String}
    {target : EntityKind} {v : Value}
    (h : (Schema.builtin kind).plainConstruct policy nested r c = .ok e)
    (reference : (name, target) ∈ (Schema.builtin kind).references)
    (own : (name, v) ∈ e.ownColumns) : ((c.get? name).getD .null).KeptAs v := by
  obtain ⟨signature, select, a, arguments, build⟩ := plainConstruct_eq_ok.1 h
  have kept := (Schema.keeps_builtin kind signature (mem_signatures_of_select select) a e build).2
  rw [← get_of_reference select arguments reference]
  exact kept.columns _ own

theorem kind_of_plainConstruct {nested : PlainDecoder} {e : Entity}
    (h : (Schema.builtin kind).plainConstruct policy nested r c = .ok e) : e.kind = kind := by
  obtain ⟨signature, select, a, -, build⟩ := plainConstruct_eq_ok.1 h
  have same := (Schema.keeps_builtin kind signature (mem_signatures_of_select select) a e build).1
  rwa [Schema.kind_builtin] at same

/-- There is such a column for each reference of the kind. -/
theorem exists_kept_reference {nested : PlainDecoder} {e : Entity} {name : String}
    {target : EntityKind}
    (h : (Schema.builtin kind).plainConstruct policy nested r c = .ok e)
    (reference : (name, target) ∈ (Schema.builtin kind).references) :
    ∃ v, (name, v) ∈ e.columns ∧ ((c.get? name).getD .null).KeptAs v ∧
      ((∃ y, v = .entity y ∧ y.kind = target) ∨
        target = .energyManager ∧ ∃ m, v = managerValue m) := by
  have column := reference
  rw [references_builtin, ← kind_of_plainConstruct h] at column
  obtain ⟨v, own, typed⟩ := exists_column_of_reference column
  exact ⟨v, Entity.mem_columns_iff.2 (.inl own), keptAs_of_reference h reference own, typed⟩

/-- A reference of a row that is decoded is held, substituted, or an unknown energy manager. -/
theorem reference_of_plainRow {i : ReferenceIndex} {e : Entity}
    {substitutions : List Substitution} (h : i.plainRow policy kind r = .ok (e, substitutions))
    {name raw : String} {target : EntityKind}
    (reference : (name, target) ∈ (Schema.builtin kind).references)
    (field : r.get? name = some raw) (filled : Text.trim raw.toList ≠ []) :
    ∃ u, Uuid.read (Text.trimmed raw) = .ok u ∧
      ((∃ x, i.get? u = some x ∧ (name, Value.entity x) ∈ e.columns) ∨
        (target = .operator ∧ i.get? u = none ∧
          ⟨name, u, ReferenceIndex.operatorReplacement⟩ ∈ substitutions) ∨
        (target = .energyManager ∧ i.get? u = none ∧ (name, Value.null) ∈ e.columns)) := by
  unfold ReferenceIndex.plainRow at h
  simp only [Outcome.bind_eq_ok, Outcome.pure_eq_ok, Prod.mk.injEq] at h
  obtain ⟨resolution, resolved, _, decoded, rfl, rfl⟩ := h
  obtain ⟨o, look⟩ := ReferenceIndex.lookField_of_resolve resolved reference
  obtain ⟨u, uuid, found⟩ := (ReferenceIndex.lookField_eq_ok_iff field filled).1 look
  refine ⟨u, uuid, ?_⟩
  have refs := Context.OfReferences.of_resolve resolved
  have context := ReferenceIndex.context_of_resolve (ReferenceIndex.nodup_references kind)
    resolved reference look
  obtain ⟨v, column, kept, typed⟩ :=
    exists_kept_reference ((plainEntity_eq_ok refs.known?).1 decoded) reference
  rw [context] at kept
  rcases ReferenceIndex.find_cases found with ⟨x, known, -, rfl⟩ | ⟨unknown, operator, rfl⟩ |
      ⟨unknown, other, rfl⟩
  · have eq : v = .entity x := by
      cases kept
      rfl
    subst eq
    exact .inl ⟨x, known, column⟩
  · refine .inr (.inl ⟨operator, unknown, ?_⟩)
    exact (ReferenceIndex.mem_substitutions_iff resolved).2 ⟨_, reference, look⟩
  · refine .inr (.inr ?_)
    -- a required reference that is unknown has no argument, so only an optional one is left
    rcases typed with ⟨y, rfl, same⟩ | ⟨manager, m, rfl⟩
    · cases kept
      exact absurd same.symm other
    · refine ⟨manager, unknown, ?_⟩
      cases m with
      | none => exact column
      | some m => cases kept

/-! ## Substitutions -/

/-- Every substitution of a row is one of its operator. -/
theorem field_of_mem_substitutions {i : ReferenceIndex} {e : Entity}
    {substitutions : List Substitution} (h : i.plainRow policy kind r = .ok (e, substitutions))
    {s : Substitution} (mem : s ∈ substitutions) : s.field = "operator" := by
  unfold ReferenceIndex.plainRow at h
  simp only [Outcome.bind_eq_ok, Outcome.pure_eq_ok, Prod.mk.injEq] at h
  obtain ⟨resolution, resolved, _, -, rfl, rfl⟩ := h
  obtain ⟨⟨name, target⟩, reference, look⟩ :=
    (ReferenceIndex.mem_substitutions_iff resolved).1 mem
  obtain ⟨rfl, u, -, -, rfl⟩ := ReferenceIndex.names_of_substituted look
  rw [references_builtin] at reference
  cases kind <;> simp_all [EntityKind.referenceTargets]

/-- The wording of a substituted operator names no energy manager. -/
theorem text_ne_of_manager {s t : Substitution} {kind : EntityKind}
    (operator : s.field = "operator")
    (manager : (t.field, EntityKind.energyManager) ∈ kind.referenceTargets) : s.text ≠ t.text := by
  have name : t.field = "em" ∨ t.field = "parentem" := by
    cases kind <;> simp_all [EntityKind.referenceTargets]
  intro same
  -- the wordings differ where the name of the field begins
  have start := congrArg (fun text => text.toList.take 9) same
  rcases name with name | name <;>
    simp [Substitution.text, operator, name, String.toList_append, toString] at start

/-! ## Batches -/

/-- A row that a batch keeps, with its number and the entity it is decoded to. -/
structure KeptRow where
  number : Nat
  record : FieldRecord
  entity : Entity

/-- The rows that are decoded to an entity, numbered from one. -/
def ReferenceIndex.keptRows (i : ReferenceIndex) (registry : Registry) (kind : EntityKind)
    (rows : List FieldRecord) : List KeptRow :=
  (rows.zipIdx 1).filterMap fun (r, number) =>
    match (i.decodeRow (Schema.builtin kind) kind r registry).1 with
    | .ok (e, _) => some ⟨number, r, e⟩
    | .error _ => none

/-- A report has a warning that the entity of a uuid, referred to in a field of a row, was
replaced. -/
def BatchReport.WarnsOf (report : BatchReport) (row : Nat) (field : String) (uuid : Uuid) : Prop :=
  ∃ issue ∈ report.issues, issue.row = some row ∧ issue.severity = .warning ∧
    issue.category = BatchOutcome.referenceCategory ∧
    issue.message = (⟨field, uuid, ReferenceIndex.operatorReplacement⟩ : Substitution).text

/-- A batch puts together what the built-in schemas make of its rows. -/
theorem decodeBatch_eq {failFast : Bool} {registry : Registry} (builtin : registry.IsBuiltin policy)
    (i : ReferenceIndex) (kind : EntityKind) (rows : List FieldRecord) :
    (i.decodeBatch failFast kind rows registry).1 = BatchOutcome.ofRows failFast
      (rows.map fun r => ⟨r.label kind, i.plainRow policy kind r⟩) := by
  have yields : (i.decodeBatch failFast kind rows).Yields policy (BatchOutcome.ofRows failFast
      (rows.map fun r => ⟨r.label kind, i.plainRow policy kind r⟩)) :=
    (yields_decodeRows i kind rows).bind_ok (.lift _)
  obtain ⟨after, run, -⟩ := yields registry builtin
  rw [run]

/-- The kept rows are those that the built-in schemas decode. -/
theorem mem_keptRows {i : ReferenceIndex} {rows : List FieldRecord} {registry : Registry}
    (builtin : registry.IsBuiltin policy) {k : KeptRow} (h : k ∈ i.keptRows registry kind rows) :
    ∃ n, k.number = n + 1 ∧ rows[n]? = some k.record ∧
      ∃ substitutions, i.plainRow policy kind k.record = .ok (k.entity, substitutions) := by
  obtain ⟨⟨r, number⟩, numbered, eq⟩ := List.mem_filterMap.1 h
  obtain ⟨start, found⟩ := List.mk_mem_zipIdx_iff_le_and_getElem?_sub.1 numbered
  obtain ⟨after, run, -⟩ := yields_decodeRow i kind r registry builtin
  simp only [run] at eq
  split at eq
  · rename_i e substitutions row
    cases eq
    exact ⟨number - 1, by simp only; omega, found, substitutions, row⟩
  · cases eq

theorem items_eq_keptRows {i : ReferenceIndex} {rows : List FieldRecord} {registry : Registry}
    (builtin : registry.IsBuiltin policy) :
    (rows.map fun r => (⟨r.label kind, i.plainRow policy kind r⟩ : RowOutcome Entity)).filterMap
        RowOutcome.item? =
      (i.keptRows registry kind rows).map KeptRow.entity := by
  unfold ReferenceIndex.keptRows
  generalize 1 = start
  induction rows generalizing start with
  | nil => rfl
  | cons r rest ih =>
      obtain ⟨after, run, -⟩ := yields_decodeRow i kind r registry builtin
      rw [List.map_cons, List.filterMap_cons, List.zipIdx_cons, List.filterMap_cons]
      simp only [run, RowOutcome.item?]
      cases row : i.plainRow policy kind r with
      | ok kept =>
          simp only [List.map_cons]
          rw [← ih (start + 1)]
      | error f =>
          rw [← ih (start + 1)]

/-- **Which references of kept rows are dropped.**  A reference with text holds a uuid.  Either the
entity holds what is known under that uuid, or the row carries a warning for it, except for
exactly the energy managers that are unknown. -/
theorem held_or_warned_iff_of_decodeBatch {known : List Entity} {failFast : Bool}
    {rows : List FieldRecord} {registry : Registry} {o : BatchOutcome Entity}
    (builtin : registry.IsBuiltin policy)
    (decoded : ((ReferenceIndex.ofList known).decodeBatch failFast kind rows registry).1 = .ok o) :
    o.items =
        ((ReferenceIndex.ofList known).keptRows registry kind rows).map KeptRow.entity ∧
      ∀ k ∈ (ReferenceIndex.ofList known).keptRows registry kind rows,
      ∀ field target raw, (field, target) ∈ (Schema.builtin kind).references →
        k.record.get? field = some raw → Text.trim raw.toList ≠ [] →
        ∃ uuid, Uuid.read (Text.trimmed raw) = .ok uuid ∧
          (((∃ x, (ReferenceIndex.ofList known).get? uuid = some x ∧ x.uuid? = some uuid ∧
                (field, Value.entity x) ∈ k.entity.columns) ∨
              o.report.WarnsOf k.number field uuid) ↔
            ¬ (target = .energyManager ∧ (ReferenceIndex.ofList known).get? uuid = none)) := by
  have rows' := (decodeBatch_eq builtin _ _ _).symm.trans decoded
  refine ⟨(BatchOutcome.ofRows_eq_ok rows').1.trans (items_eq_keptRows builtin), ?_⟩
  intro k kept field target raw reference text filled
  obtain ⟨n, number, at_n, substitutions, row⟩ := mem_keptRows builtin kept
  obtain ⟨u, uuid, cases'⟩ := reference_of_plainRow row reference text filled
  refine ⟨u, uuid, ?_⟩
  have at_n' : (rows.map fun r => (⟨r.label kind,
      (ReferenceIndex.ofList known).plainRow policy kind r⟩ : RowOutcome Entity))[n]? =
      some ⟨k.record.label kind, .ok (k.entity, substitutions)⟩ := by
    rw [List.getElem?_map, at_n, Option.map_some, row]
  constructor
  · -- an unknown energy manager is not held, and a warning would be one of the operator
    rintro held ⟨manager, unknown⟩
    rcases held with ⟨x, found, -, -⟩ | ⟨issue, mem, about, -, -, message⟩
    · rw [unknown] at found
      cases found
    · rw [number] at about
      have mem := (BatchOutcome.mem_issues_iff rows' at_n').1 ⟨mem, about⟩
      obtain ⟨s, noted, rfl⟩ := List.mem_map.1 mem
      rw [references_builtin, manager] at reference
      exact text_ne_of_manager (t := ⟨field, u, ReferenceIndex.operatorReplacement⟩)
        (field_of_mem_substitutions row noted) reference message
  · intro other
    rcases cases' with ⟨x, found, column⟩ | ⟨-, -, noted⟩ | ⟨manager, unknown, -⟩
    · exact .inl ⟨x, found, ReferenceIndex.keyed_ofList known _ _ found, column⟩
    · right
      obtain ⟨mem, about⟩ := (BatchOutcome.mem_issues_iff rows' at_n').2
        (List.mem_map_of_mem noted)
      exact ⟨_, mem, number ▸ about, rfl, rfl, rfl⟩
    · exact absurd ⟨manager, unknown⟩ other

/-- The row of an energy manager with an operator and a parent. -/
def managerRow (operator parent : String) : FieldRecord :=
  .ofList [("uuid", "3d2a1b4c-0001-4000-8000-000000000001"), ("id", "manager"),
    ("controlstrategy", "self"), ("operator", operator), ("parentem", parent)]

/-- A uuid that no entity has. -/
def unknownUuid : String := "3d2a1b4c-0002-4000-8000-000000000002"

/-- A row with an unknown operator is kept with a warning. -/
theorem warned_of_unknown_operator :
    ∃ o uuid, ((ReferenceIndex.ofList []).decodeBatch false .energyManager
          [managerRow unknownUuid ""] strictRegistry).1 = .ok o ∧
        Uuid.read (Text.trimmed unknownUuid) = .ok uuid ∧ o.report.WarnsOf 1 "operator" uuid := by
  have builtin := isBuiltin_strictRegistry
  have evaluated : ((ReferenceIndex.ofList []).decodeBatch false .energyManager
        [managerRow unknownUuid ""] strictRegistry).1.toBool = true ∧
      (((ReferenceIndex.ofList []).keptRows strictRegistry .energyManager
        [managerRow unknownUuid ""]).any fun k =>
          k.number == 1 && k.record.get? "operator" == some unknownUuid) = true := by
    rw [decodeBatch_eq builtin]
    decide
  obtain ⟨decodes, keeps⟩ := evaluated
  obtain ⟨k, kept, row⟩ := List.any_eq_true.1 keeps
  obtain ⟨number, text⟩ : k.number = 1 ∧ k.record.get? "operator" = some unknownUuid := by
    simpa using row
  cases decoded : ((ReferenceIndex.ofList []).decodeBatch false .energyManager
      [managerRow unknownUuid ""] strictRegistry).1 with
  | error f =>
      rw [decoded] at decodes
      cases decodes
  | ok o =>
      obtain ⟨uuid, read, held⟩ := (held_or_warned_iff_of_decodeBatch builtin decoded).2 k kept
        "operator" .operator unknownUuid (by decide) text (by decide)
      refine ⟨o, uuid, rfl, read, ?_⟩
      rcases held.2 (by simp) with ⟨x, found, -⟩ | warned
      · cases found
      · rw [← number]
        exact warned

/-- A row with an unknown parent is kept as if it had none, without a warning. -/
theorem dropped_of_unknown_parent :
    ∃ o k uuid, ((ReferenceIndex.ofList []).decodeBatch false .energyManager
          [managerRow "" unknownUuid] strictRegistry).1 = .ok o ∧
        k ∈ (ReferenceIndex.ofList []).keptRows strictRegistry .energyManager
          [managerRow "" unknownUuid] ∧
        k.record.get? "parentem" = some unknownUuid ∧
        Uuid.read (Text.trimmed unknownUuid) = .ok uuid ∧
        (∀ x, ("parentem", Value.entity x) ∉ k.entity.columns) ∧
        ¬ o.report.WarnsOf k.number "parentem" uuid := by
  -- the batch reports nothing, and the kept row has no parent
  have evaluated : ((ReferenceIndex.ofList []).decodeBatch false .energyManager
        [managerRow "" unknownUuid] strictRegistry).1.toOption.any
          (fun o => o.report.issues.isEmpty) = true ∧
      (((ReferenceIndex.ofList []).keptRows strictRegistry .energyManager
        [managerRow "" unknownUuid]).any fun k =>
          k.record.get? "parentem" == some unknownUuid &&
            k.entity.columns.all fun c => c.1 != "parentem" || c.2.isNull) = true := by
    rw [decodeBatch_eq isBuiltin_strictRegistry]
    decide +kernel
  obtain ⟨quiet, keeps⟩ := evaluated
  obtain ⟨uuid, read⟩ : ∃ uuid, Uuid.read (Text.trimmed unknownUuid) = .ok uuid :=
    ⟨⟨0x3d2a1b4c000240008000000000000002#128⟩, by decide +kernel⟩
  obtain ⟨k, kept, row⟩ := List.any_eq_true.1 keeps
  obtain ⟨text, columns⟩ := Bool.and_eq_true_iff.1 row
  obtain ⟨o, decoded, silent⟩ := Outcome.exists_of_any quiet
  refine ⟨o, k, uuid, decoded, kept, by simpa using text, read, ?_, ?_⟩
  · intro x mem
    have none := List.all_eq_true.1 columns _ mem
    cases none
  · rintro ⟨issue, mem, -⟩
    rw [List.isEmpty_iff.1 silent] at mem
    cases mem

end GridRecords
