/-
# The references of a row

What refers to other entities is listed three times: by the parameters of the schemas, by the
columns of the rows and by the relations.  `namedKeys_of_flatten` says that the lists agree: the
columns of references in the row of an entity name the keys of what the entity depends on, as often
as it does.

So an extraction holds what the rows of its entities refer to, and each entity in it is named by the
row of one that depends on it.
-/
import GridRecords.Proofs.Decode.Referents
import GridRecords.Proofs.Extraction.Closure
import GridRecords.Proofs.Leaf.Uuid

namespace GridRecords

variable {e x y : Entity} {row : FlatRecord} {name : String} {target : EntityKind}

/-! ## Reading the references of a row -/

namespace FlatRecord

/-- The key that the column of a reference names; a blank column names none.  The column must be
there, and what is not blank must be a uuid. -/
def namedKey? (row : FlatRecord) (name : String) (target : EntityKind) :
    Option (Option EntityKey) := do
  let text ← row.get? name
  if Text.trim text.toList = [] then return none
  let uuid ← (Uuid.read (Text.trimmed text)).toOption
  return some ⟨target, uuid⟩

/-- The keys that the columns of the references of a schema name. -/
def namedKeys? (row : FlatRecord) (s : Schema) : Option (List EntityKey) := do
  return (← s.references.mapM fun (name, target) => row.namedKey? name target).reduceOption

theorem namedKey?_of_empty (h : row.get? name = some "") :
    row.namedKey? name target = some none := by
  unfold namedKey?
  rw [h]
  rfl

theorem namedKey?_of_uuid {uuid : Uuid} (h : row.get? name = some uuid.text) :
    row.namedKey? name target = some (some ⟨target, uuid⟩) := by
  have filled : Text.trim uuid.text.toList ≠ [] := by
    rw [Uuid.trim_text]
    exact uuid.toList_text_ne_nil
  have read : Uuid.read (Text.trimmed uuid.text) = .ok uuid := by
    unfold Text.trimmed
    rw [Uuid.trim_text, String.ofList_toList]
    exact uuid.read_text
  unfold namedKey?
  rw [h, Option.bind_eq_bind, Option.bind_some, if_neg filled, read]
  rfl

end FlatRecord

/-! ## The column of a reference -/

/-- The key of an entity that is persisted on its own. -/
def Entity.persistentKey? (x : Entity) : Option EntityKey :=
  if x.isUnassigned then none else x.key?

/-- An entity in a cell is named by its column, the placeholder by none. -/
theorem namedKey?_of_cellText {kind : EntityKind} {text : String}
    (written : cellText kind name (.entity x) = .ok text) (found : row.get? name = some text) :
    row.namedKey? name x.kind = some x.persistentKey? := by
  unfold cellText at written
  unfold Entity.persistentKey?
  by_cases placeholder : x.isUnassigned = true
  · simp only [if_pos placeholder] at written ⊢
    cases written
    exact FlatRecord.namedKey?_of_empty found
  · simp only [if_neg placeholder] at written ⊢
    unfold Entity.key?
    cases known : x.uuid? with
    | none =>
        rw [known] at written
        cases written
    | some uuid =>
        rw [known] at written
        cases written
        exact FlatRecord.namedKey?_of_uuid found

/-- **The column of a reference names what the entity holds for it.** -/
theorem namedKey?_of_flatten (h : e.flatten = .ok row)
    (reference : (name, target) ∈ e.kind.referenceTargets) :
    row.namedKey? name target = some ((e.held? name).bind Entity.persistentKey?) := by
  obtain ⟨column, typed, -⟩ := Entity.column_of_held reference
  have mem : (name, Value.ofOption .entity (e.held? name)) ∈ e.columns :=
    Entity.mem_columns_iff.2 (.inl column)
  rw [← Entity.map_cells] at mem
  obtain ⟨c, cell, same⟩ := List.mem_map.1 mem
  obtain ⟨text, written, found⟩ := (Entity.get?_flatten h).1 c cell
  obtain ⟨named, value⟩ := Prod.mk.inj same
  rw [named, value] at written
  rw [named] at found
  cases held : e.held? name with
  | none =>
      rw [held] at written
      cases written
      exact FlatRecord.namedKey?_of_empty found
  | some x =>
      rw [held] at written
      rw [← typed x held]
      exact namedKey?_of_cellText written found

/-! ## Relations and parameters -/

/-- What an entity holds stands by the references of its kind. -/
theorem Entity.referents_eq (e : Entity) :
    e.referents = e.kind.referenceTargets.map fun (name, _) => (name, e.held? name) := by
  cases e <;> simp [referents, kind, EntityKind.referenceTargets, held?, lookupEntry]

/-- What an entity holds is what its relations lead to. -/
theorem Entity.perm_related (e : Entity) :
    (e.referents.filterMap Prod.snd).Perm (e.relations.flatMap Relation.related) := by
  -- the operator stands first among the referents, but after nodes and types in the relations
  cases e
  case line l =>
    exact (List.perm_append_singleton (operator l.operator)
      [node l.nodeA, node l.nodeB, lineType l.lineType]).symm
  case load l =>
    cases manager : l.manager <;> simp only [referents, relations, managerRelation, manager]
    · exact .swap _ _ _
    · exact .swap _ _ _
  case energyManager m =>
    cases parent : m.parent? <;> simp only [referents, relations, managerRelation, parent]
    · exact .refl _
    · exact .refl _
  case chp c =>
    cases manager : c.manager <;> simp only [referents, relations, managerRelation, manager]
    · exact (List.Perm.swap _ _ _).trans ((List.Perm.swap _ _ _).cons _)
    · exact (List.Perm.swap _ _ _).trans ((List.Perm.swap _ _ _).cons _)
  all_goals exact .refl _

/-- The row of an entity names the keys of what the entity holds. -/
theorem namedKeys?_of_flatten (h : e.flatten = .ok row) :
    row.namedKeys? (Schema.builtin e.kind) =
      some ((e.referents.filterMap Prod.snd).filterMap Entity.persistentKey?) := by
  have named : ((Schema.builtin e.kind).references.mapM fun (name, target) =>
      row.namedKey? name target) = some (e.kind.referenceTargets.map fun (name, _) =>
        (e.held? name).bind Entity.persistentKey?) := by
    rw [references_builtin]
    exact Outcome.mapM_eq_pure fun _ reference => namedKey?_of_flatten h reference
  unfold FlatRecord.namedKeys?
  rw [named, Option.bind_eq_bind, Option.bind_some, e.referents_eq, List.reduceOption,
    List.filterMap_map, List.filterMap_map, List.filterMap_filterMap]
  rfl

/-- What an entity depends on has the keys of what it holds. -/
theorem Entity.perm_keys (e : Entity) :
    ((e.referents.filterMap Prod.snd).filterMap persistentKey?).Perm
      (e.dependencies.filterMap key?) := by
  have dependencies : e.dependencies =
      (e.relations.flatMap Relation.related).filter (!·.isUnassigned) := by
    rw [List.filter_flatMap]
    exact List.flatMap_congr fun r relation => persistable_of_mem_relations relation
  have keys : e.dependencies.filterMap key? =
      (e.relations.flatMap Relation.related).filterMap persistentKey? := by
    rw [dependencies, List.filterMap_filter]
    refine List.filterMap_congr fun x _ => ?_
    unfold persistentKey?
    cases x.isUnassigned <;> rfl
  rw [keys]
  exact e.perm_related.filterMap _

/-! ## Rows and extractions -/

/-- The row of an entity names a key. -/
def Entity.RowNames (e : Entity) (key : EntityKey) : Prop :=
  ∃ row keys, e.flatten = .ok row ∧ row.namedKeys? (Schema.builtin e.kind) = some keys ∧ key ∈ keys

/-- A row names the keys of what its entity depends on. -/
theorem Entity.rowNames_iff (h : e.flatten = .ok row) {key : EntityKey} :
    e.RowNames key ↔ ∃ x ∈ e.dependencies, x.key? = some key := by
  rw [← List.mem_filterMap, ← e.perm_keys.mem_iff]
  constructor
  · rintro ⟨other, keys, written, named, mem⟩
    cases h.symm.trans written
    rw [namedKeys?_of_flatten h] at named
    cases named
    exact mem
  · intro mem
    exact ⟨row, _, h, namedKeys?_of_flatten h, mem⟩

/-- What an entity leads to depends on another one that it leads to, or is the entity itself. -/
theorem Entity.DependsOn.exists_dependent (h : e.DependsOn x) :
    ∃ y, e.Reaches y ∧ x ∈ y.dependencies := by
  obtain ⟨first, dependency, reached⟩ := h
  induction reached generalizing e with
  | refl z => exact ⟨e, .refl e, dependency⟩
  | step later _ ih =>
      obtain ⟨y, reached, last⟩ := ih later
      exact ⟨y, .step dependency reached, last⟩

/-- **The references of a row are the relations of its entity.**  The relations of an entity are
those that its kind declares, in order.  In each column of a reference its row has a uuid or
nothing, and the keys that these columns name are the keys of what is persisted of the direct
relations.  So whatever an extraction from the entity writes, the rows of the root and of what was
extracted name nothing that was not extracted, and all that was extracted is named by the row of an
entity that the root leads to. -/
theorem namedKeys_of_flatten (h : e.flatten = .ok row) :
    e.relations.map (·.kind) = e.kind.relationKinds ∧
    (∃ keys, row.namedKeys? (Schema.builtin e.kind) = some keys ∧
      keys.Perm ((e.relations.flatMap Relation.persistable).filterMap Entity.key?)) ∧
    (∀ x ∈ e.relations.flatMap Relation.persistable, ∃ key, x.key? = some key) ∧
    ∀ extraction, e.extract = .ok extraction →
      (∀ y, y = e ∨ y ∈ extraction.entities → ∀ key, y.RowNames key →
        ∃ x ∈ extraction.entities, x.key? = some key) ∧
      ∀ x ∈ extraction.entities, ∃ y, e.Reaches y ∧
        ∀ row, y.flatten = .ok row → ∃ key, x.key? = some key ∧ y.RowNames key := by
  have identified {x y : Entity} (mem : x ∈ y.dependencies) : ∃ key, x.key? = some key :=
    Option.ne_none_iff_exists'.1 (Entity.key?_ne_none_of_mem_dependencies mem)
  refine ⟨e.map_kind_relations, ⟨_, namedKeys?_of_flatten h, e.perm_keys⟩,
    fun x mem => identified mem, fun extraction extracted => ?_⟩
  obtain ⟨rfl, branches, closed⟩ := Extraction.closed_of_extract extracted
  constructor
  · intro y of key named
    obtain ⟨row, keys, written, -⟩ := id named
    obtain ⟨x, dependency, same⟩ := (Entity.rowNames_iff written).1 named
    obtain ⟨z, mem, represents⟩ := (closed.covers y of x dependency).1
    exact ⟨z, mem, represents.trans same⟩
  · intro x mem
    obtain ⟨y, reached, dependency⟩ := (closed.within.entities x mem).exists_dependent
    obtain ⟨key, same⟩ := identified dependency
    refine ⟨y, reached, fun row written => ⟨key, same, ?_⟩⟩
    exact (Entity.rowNames_iff written).2 ⟨x, dependency, same⟩

/-- The row of a manager names its parent, and no operator. -/
theorem namedKeys_managerOf :
    ∃ row, (Entity.energyManager (managerOf 1 [2, 3])).flatten = .ok row ∧
      row.namedKeys? (Schema.builtin .energyManager) =
        some [⟨.energyManager, ⟨BitVec.ofNat 128 2⟩⟩] := by
  have writes : (Entity.energyManager (managerOf 1 [2, 3])).flatten.toOption.any
      (fun _ => true) = true := by
    decide
  obtain ⟨row, written, -⟩ := Outcome.exists_of_any writes
  obtain ⟨-, ⟨keys, named, perm⟩, -⟩ := namedKeys_of_flatten written
  have one : keys = [⟨.energyManager, ⟨BitVec.ofNat 128 2⟩⟩] := List.perm_singleton.1 perm
  exact ⟨row, written, one ▸ named⟩

end GridRecords
