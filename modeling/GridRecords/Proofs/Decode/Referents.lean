/-
# Where the parts of a decoded entity come from

The entities that a decoded entity holds come from the index by the uuids in the record
(`Entity.held?`), and its own uuid comes from the record.  Nothing else of the index enters it: what
the references of a record resolve to never stands for the entity itself.
-/
import GridRecords.Proofs.Decode.KeptReferences

namespace GridRecords

open Decoding

/-! ## What an entity holds -/

/-- The entities that an entity holds, by the parameters that refer to them. -/
def Entity.referents : Entity → List (String × Option Entity)
  | .node n => [("operator", some (.operator n.operator))]
  | .line l =>
    [("operator", some (.operator l.operator)), ("nodea", some (.node l.nodeA)),
      ("nodeb", some (.node l.nodeB)), ("type", some (.lineType l.lineType))]
  | .lineGraphic g => [("line", some (.line g.line))]
  | .load l =>
    [("operator", some (.operator l.operator)), ("node", some (.node l.node)),
      ("em", l.manager.map .energyManager)]
  | .energyManager m =>
    [("operator", some (.operator m.operator)), ("parentem", m.parent?.map .energyManager)]
  | .chp c =>
    [("operator", some (.operator c.operator)), ("node", some (.node c.node)),
      ("type", some (.chpType c.chpType)), ("thermalbus", some (.thermalBus c.thermalBus)),
      ("thermalstorage", some (.cylindricalStorage c.thermalStorage)),
      ("em", c.manager.map .energyManager)]
  | .thermalBus b => [("operator", some (.operator b.operator))]
  | .cylindricalStorage s =>
    [("operator", some (.operator s.operator)), ("thermalbus", some (.thermalBus s.thermalBus))]
  | .operator _ | .voltageLevel _ | .lineType _ | .chpType _ | .nodeResult _ | .loadResult _
  | .timeBasedValue _ | .irradiance _ | .temperature _ | .wind _ => []

/-- The entity that an entity holds for a parameter. -/
def Entity.held? (e : Entity) (name : String) : Option Entity :=
  (lookupEntry name e.referents).join

variable {policy : BooleanPolicy} {kind : EntityKind} {r : FieldRecord} {c : Context} {e : Entity}
  {name : String} {target : EntityKind} {i : ReferenceIndex} {resolution : Resolution}

theorem Value.ofOption_some {α : Type} (make : α → Value) (a : α) :
    Value.ofOption make (some a) = make a := rfl

theorem ofOption_manager (m : Option EnergyManager) :
    Value.ofOption .entity (m.map .energyManager) = managerValue m := by
  cases m <;> rfl

/-- What an entity holds for a parameter stands in its column of that name.  It is of the kind that
the parameter refers to, and there always is an operator. -/
theorem Entity.column_of_held (reference : (name, target) ∈ e.kind.referenceTargets) :
    (name, Value.ofOption .entity (e.held? name)) ∈ e.ownColumns ∧
      (∀ x, e.held? name = some x → x.kind = target) ∧
      (target = .operator → e.held? name ≠ none) := by
  have each : ∀ reference ∈ e.kind.referenceTargets,
      (reference.1, Value.ofOption .entity (e.held? reference.1)) ∈ e.ownColumns ∧
        (∀ x, e.held? reference.1 = some x → x.kind = reference.2) ∧
        (reference.2 = .operator → e.held? reference.1 ≠ none) := by
    cases e <;> simp [EntityKind.referenceTargets, ownColumns, columns, Asset.columns, held?,
      referents, lookupEntry, Value.ofOption_some, ofOption_manager, kind]
  exact each _ reference

/-- **What the context knows of a reference is what the entity holds for it.**  Where the context
knows nothing of it, the entity holds nothing, or the operator that stands for none. -/
theorem held_of_plainConstruct {nested : PlainDecoder}
    (h : (Schema.builtin kind).plainConstruct policy nested r c = .ok e)
    (reference : (name, target) ∈ (Schema.builtin kind).references) :
    (∀ x, c.get? name = some (.entity x) → e.held? name = some x) ∧
      (c.get? name = none → e.held? name =
        if target = .operator then some (.operator .unassigned) else none) := by
  have reference' := reference
  rw [references_builtin, ← kind_of_plainConstruct h] at reference'
  obtain ⟨column, typed, operator⟩ := Entity.column_of_held reference'
  have kept := keptAs_of_reference h reference column
  constructor
  · intro x known
    rw [known] at kept
    cases held : e.held? name with
    | none =>
        rw [held] at kept
        cases kept
    | some y =>
        rw [held] at kept
        cases kept
        rfl
  · intro unknown
    rw [unknown] at kept
    cases held : e.held? name with
    | none => rw [if_neg fun same => operator same held]
    | some y =>
        rw [held] at kept
        cases kept
        exact (if_pos (typed _ held).symm).symm

/-! ## What references resolve to -/

namespace ReferenceIndex

/-- If records of a kind refer to operators, they do so once. -/
theorem references_operator (kind : EntityKind) :
    (∃ rest, (Schema.builtin kind).references = ("operator", .operator) :: rest ∧
      ∀ x ∈ rest, x.2 ≠ .operator) ∨
    ∀ x ∈ (Schema.builtin kind).references, x.2 ≠ .operator := by
  rw [references_builtin]
  cases kind
  case line | load | energyManager | chp | cylindricalStorage =>
    exact .inl ⟨_, rfl, by simp⟩
  case node | thermalBus => exact .inl ⟨[], rfl, by simp⟩
  all_goals
    right
    simp [EntityKind.referenceTargets]

theorem substitution?_of_ne_operator {x : String × EntityKind} (other : x.2 ≠ .operator) :
    (i.outcome r x).substitution? = none := by
  unfold outcome
  cases look : i.lookField r x.1 x.2 with
  | error f => rfl
  | ok o =>
      cases o with
      | substituted sub => exact absurd (names_of_substituted look).1 other
      | _ => rfl

/-- **The operator of a record is substituted exactly if it is unknown.** -/
theorem substitutions_of_resolve (h : i.resolve (Schema.builtin kind) r = .ok resolution) :
    (∀ u, ("operator", .operator) ∈ (Schema.builtin kind).references → r.Names "operator" u →
      i.get? u = none → resolution.substitutions = [⟨"operator", u, operatorReplacement⟩]) ∧
    ((∀ u, ("operator", .operator) ∈ (Schema.builtin kind).references → r.Names "operator" u →
      i.get? u ≠ none) → resolution.substitutions = []) := by
  have outcomes : resolution.substitutions =
      (Schema.builtin kind).references.filterMap fun x => (i.outcome r x).substitution? :=
    congrArg Resolution.substitutions (resolve_eq_ok_iff.1 h).2
  constructor
  · intro u reference names unknown
    rcases references_operator kind with ⟨rest, operator, others⟩ | none
    · have here : i.outcome r ("operator", .operator) = .substituted ⟨"operator", u, _⟩ :=
        outcome_of_lookField (lookField_of_unknown names unknown)
      have rest' : rest.filterMap (fun x => (i.outcome r x).substitution?) = [] :=
        List.filterMap_eq_nil_iff.2 fun x mem => substitution?_of_ne_operator (others x mem)
      rw [outcomes, operator, List.filterMap_cons, here, rest']
      rfl
    · exact absurd rfl (none _ reference)
  · intro known
    refine List.eq_nil_iff_forall_not_mem.2 fun sub mem => ?_
    obtain ⟨⟨name, target⟩, reference, look⟩ := (mem_substitutions_iff h).1 mem
    obtain ⟨rfl, u, names, unknown, rfl⟩ := names_of_substituted look
    have named : name = "operator" := by
      rcases references_operator kind with ⟨rest, operator, others⟩ | none
      · rw [operator] at reference
        rcases List.mem_cons.1 reference with same | later
        · exact congrArg Prod.fst same
        · exact absurd rfl (others _ later)
      · exact absurd rfl (none _ reference)
    subst named
    exact known u reference names unknown

end ReferenceIndex

/-! ## The uuid of an entity -/

theorem Entity.column_of_uuid? {u : Uuid} (h : e.uuid? = some u) :
    ("uuid", Value.uuid u) ∈ e.ownColumns := by
  cases e <;> simp only [uuid?, Option.some.injEq, reduceCtorEq] at h
  case timeBasedValue v =>
    subst h
    obtain ⟨uuid, time, payload⟩ := v
    cases payload <;> simp [ownColumns, columns, TimeBasedValue.identity]
  all_goals
    subst h
    simp [ownColumns, columns, Asset.columns]

/-- An identified entity has the uuid that its record has in the column for it. -/
theorem uuid_of_plainConstruct {nested : PlainDecoder} (refs : c.OfReferences kind)
    (h : (Schema.builtin kind).plainConstruct policy nested r c = .ok e)
    (identified : kind.isIdentified = true) :
    ∃ raw u, r.get? "uuid" = some raw ∧ LeafKind.decode policy .uuid raw = .ok (.uuid u) ∧
      e.uuid? = some u := by
  have unreferenced : ∀ kind ∈ EntityKind.all,
      "uuid" ∉ (Schema.builtin kind).references.map Prod.fst := by
    decide
  have direct : ∀ kind ∈ EntityKind.all, ∀ p ∈ (Schema.builtin kind).parameters,
      p.name = "uuid" → p.source = .direct .uuid := by
    decide
  rw [← kind_of_plainConstruct h, ← Entity.isSome_uuid?] at identified
  obtain ⟨u, uuid⟩ := Option.isSome_iff_exists.1 identified
  obtain ⟨signature, select, a, arguments, build⟩ := plainConstruct_eq_ok.1 h
  have kept := (Schema.keeps_builtin kind signature (mem_signatures_of_select select) a e build).2
  have value : a.get "uuid" = .uuid u := by
    have same := kept.columns _ (Entity.column_of_uuid? uuid)
    generalize a.get "uuid" = given at same
    cases same
    rfl
  have given : a.get "uuid" ≠ .null := by simp [value]
  obtain ⟨p, mem, named, argument⟩ :=
    exists_plainArgument (nodup_parameters kind) arguments given
  have source := direct kind kind.mem_all p mem named
  have unknown : c.get? p.name = none := refs.other _ (named ▸ unreferenced kind kind.mem_all)
  rw [value] at argument
  unfold Parameter.plainArgument at argument
  rw [unknown, source, named] at argument
  cases field : r.get? "uuid" with
  | none =>
      rw [field] at argument
      cases argument
  | some raw =>
      rw [field] at argument
      exact ⟨raw, u, rfl, argument, uuid⟩

/-! ## Decoded rows -/

/-- **References come from the record and the index only.**  The references of a record are resolved
and the record is decoded.  For each reference with text that names a known entity, that entity is
of the kind in question and is the one that the decoded entity holds; for a blank one it holds
nothing, or the operator that stands for none.  There is one substitution, for an operator that
is unknown and that the same one stands for then, or there is none.  The context does not know the
entity itself, and an identified entity has the uuid in the column of its record. -/
theorem held_of_resolve {registry : Registry} (hr : registry.IsBuiltin policy)
    (resolved : i.resolve (Schema.builtin kind) r = .ok resolution)
    (decoded : (Registry.decodeEntity kind r resolution.context registry).1 = .ok e) :
    (∀ name target, (name, target) ∈ (Schema.builtin kind).references →
      (∀ u x, r.Names name u → i.get? u = some x →
        x.kind = target ∧ e.held? name = some x) ∧
      (r.IsBlank name → e.held? name =
        if target = .operator then some (.operator .unassigned) else none)) ∧
    (∀ u, ("operator", .operator) ∈ (Schema.builtin kind).references → r.Names "operator" u →
      i.get? u = none →
        resolution.substitutions = [⟨"operator", u, ReferenceIndex.operatorReplacement⟩] ∧
        e.held? "operator" = some (.operator .unassigned)) ∧
    ((∀ u, ("operator", .operator) ∈ (Schema.builtin kind).references → r.Names "operator" u →
      i.get? u ≠ none) → resolution.substitutions = []) ∧
    kind.known? resolution.context = none ∧
    (kind.isIdentified = true →
      ∃ raw u, r.get? "uuid" = some raw ∧ LeafKind.decode policy .uuid raw = .ok (.uuid u) ∧
        e.uuid? = some u) := by
  have refs := Context.OfReferences.of_resolve resolved
  have built := (plainEntity_eq_ok refs.known?).1
    ((ComesTo.eq (yields_decodeEntity kind r resolution.context) hr).symm.trans decoded)
  have context {name : String} {target : EntityKind} {o : ReferenceIndex.Outcome}
      (reference : (name, target) ∈ (Schema.builtin kind).references)
      (look : i.lookField r name target = .ok o) : resolution.context.get? name = o.value? :=
    ReferenceIndex.context_of_resolve (ReferenceIndex.nodup_references kind) resolved reference look
  obtain ⟨substituted, none⟩ := ReferenceIndex.substitutions_of_resolve resolved
  refine ⟨fun name target reference => ⟨?_, ?_⟩, ?_, none, refs.known?,
    uuid_of_plainConstruct refs built⟩
  · intro u x names known
    obtain ⟨o, look⟩ := ReferenceIndex.lookField_of_resolve resolved reference
    obtain ⟨same, rfl⟩ := ReferenceIndex.found_of_names look names known
    exact ⟨same, (held_of_plainConstruct built reference).1 x (context reference look)⟩
  · intro blank
    exact (held_of_plainConstruct built reference).2
      (context reference (ReferenceIndex.lookField_absent blank))
  · intro u reference names unknown
    refine ⟨substituted u reference names unknown, ?_⟩
    exact ((held_of_plainConstruct built reference).2 (context reference
      (ReferenceIndex.lookField_of_unknown names unknown))).trans (if_pos rfl)

/-- A manager that others are built under. -/
def parentManager : EnergyManager where
  uuid := ⟨0x3d2a1b4c000340008000000000000003#128⟩
  id := "parent"
  operator := .unassigned
  operationTime := .unlimited
  controlStrategy := "self"
  ancestors := []

/-- A manager holds the parent that its row names, and the operator that stands for an unknown
one. -/
theorem held_of_resolve_manager :
    ∃ resolution e,
      (ReferenceIndex.ofList [.energyManager parentManager]).resolve
        (Schema.builtin .energyManager)
        (managerRow unknownUuid "3d2a1b4c-0003-4000-8000-000000000003") = .ok resolution ∧
      (Registry.decodeEntity .energyManager
        (managerRow unknownUuid "3d2a1b4c-0003-4000-8000-000000000003") resolution.context
        strictRegistry).1 = .ok e ∧
      e.held? "parentem" = some (.energyManager parentManager) ∧
      e.held? "operator" = some (.operator .unassigned) ∧
      resolution.substitutions =
        [⟨"operator", ⟨0x3d2a1b4c000240008000000000000002#128⟩,
          ReferenceIndex.operatorReplacement⟩] := by
  have decodes : ((ReferenceIndex.ofList [.energyManager parentManager]).resolve
      (Schema.builtin .energyManager)
      (managerRow unknownUuid "3d2a1b4c-0003-4000-8000-000000000003")).toOption.any
        (fun resolution => (Registry.decodeEntity .energyManager
          (managerRow unknownUuid "3d2a1b4c-0003-4000-8000-000000000003") resolution.context
          strictRegistry).1.toOption.any fun _ => true) = true := by
    decide
  obtain ⟨resolution, resolved, decodes⟩ := Outcome.exists_of_any decodes
  obtain ⟨e, decoded, -⟩ := Outcome.exists_of_any decodes
  obtain ⟨references, operator, -⟩ := held_of_resolve isBuiltin_strictRegistry resolved decoded
  have parent := (references "parentem" .energyManager (by decide)).1
    ⟨0x3d2a1b4c000340008000000000000003#128⟩ (.energyManager parentManager)
    ⟨_, rfl, by decide, by decide⟩ (by rfl)
  have unknown := operator ⟨0x3d2a1b4c000240008000000000000002#128⟩ (by decide +kernel)
    ⟨unknownUuid, by decide, by decide, by decide⟩ (by decide)
  exact ⟨resolution, e, resolved, decoded, parent.2, unknown.2, unknown.1⟩

end GridRecords
