/-
# What an entity leads to

`Entity.Reaches` follows relations any number of times, `Entity.DependsOn` at least once.  Ranks
fall along relations, so nothing depends on itself as an instance; as a key it may
(`Entity.Coherent` says when it does not).

What an entity depends on directly can always be read (`direct_domain`), unless its kind has no
relations (`direct_of_relationKinds`).
-/
import GridRecords.Extraction.Access

namespace GridRecords

/-- An entity leads to itself, and to what its dependencies lead to. -/
inductive Entity.Reaches : Entity → Entity → Prop
  | refl (e : Entity) : Reaches e e
  | step {e x y : Entity} (dependency : x ∈ e.dependencies) (rest : Reaches x y) : Reaches e y

/-- An entity depends on another one through one or more relations. -/
def Entity.DependsOn (e y : Entity) : Prop := ∃ x ∈ e.dependencies, x.Reaches y

/-- Keys and uuids tell apart what an entity leads to. -/
structure Entity.Coherent (root : Entity) : Prop where
  same : ∀ x y, root.Reaches x → root.Reaches y → x.key? = y.key? → x.key? ≠ none → x = y
  apart : ∀ x y, root.Reaches x → root.Reaches y → x.key? ≠ y.key? → x.uuid? ≠ y.uuid?

/-! ## Kinds of dependencies -/

/-- The kinds of what entities of a kind depend on directly. -/
def EntityKind.dependencyKinds : EntityKind → List EntityKind
  | .node | .thermalBus => [.operator]
  | .line => [.node, .lineType, .operator]
  | .lineGraphic => [.line]
  | .load => [.node, .operator, .energyManager]
  | .energyManager => [.operator, .energyManager]
  | .chp => [.node, .chpType, .operator, .thermalBus, .cylindricalStorage, .energyManager]
  | .cylindricalStorage => [.operator, .thermalBus]
  | .operator | .voltageLevel | .lineType | .chpType | .nodeResult | .loadResult
  | .timeBasedValue | .irradiance | .temperature | .wind => []

namespace Entity

variable {root e x y : Entity}

theorem kind_of_mem_managerRelation {m : Option EnergyManager}
    (h : x ∈ (managerRelation m).related) : x.kind = .energyManager := by
  cases m with
  | none => cases h
  | some m => rw [List.mem_singleton.1 h]; rfl

/-- What an entity depends on is of one of the kinds that its own kind names. -/
theorem kind_of_mem_dependencies (h : x ∈ e.dependencies) : x.kind ∈ e.kind.dependencyKinds := by
  obtain ⟨r, relation, related⟩ := List.mem_flatMap.1 h
  have related := (Relation.mem_persistable_iff.1 related).1
  cases e <;> simp only [relations, List.mem_cons, List.not_mem_nil, or_false] at relation
  case line l =>
    rcases relation with rfl | rfl | rfl <;>
      simp only [List.mem_cons, List.not_mem_nil, or_false] at related
    · rcases related with rfl | rfl <;> simp [kind, EntityKind.dependencyKinds]
    · subst related; simp [kind, EntityKind.dependencyKinds]
    · subst related; simp [kind, EntityKind.dependencyKinds]
  case node | thermalBus | lineGraphic =>
    subst relation
    rw [List.mem_singleton.1 related]
    simp [kind, EntityKind.dependencyKinds]
  case cylindricalStorage =>
    rcases relation with rfl | rfl <;>
      (rw [List.mem_singleton.1 related]; simp [kind, EntityKind.dependencyKinds])
  case load =>
    rcases relation with rfl | rfl | rfl
    case inr.inr =>
      rw [kind_of_mem_managerRelation related]
      simp [kind, EntityKind.dependencyKinds]
    all_goals rw [List.mem_singleton.1 related]; simp [kind, EntityKind.dependencyKinds]
  case energyManager =>
    rcases relation with rfl | rfl
    · rw [List.mem_singleton.1 related]; simp [kind, EntityKind.dependencyKinds]
    · rw [kind_of_mem_managerRelation related]; simp [kind, EntityKind.dependencyKinds]
  case chp =>
    rcases relation with rfl | rfl | rfl | rfl | rfl | rfl
    case inr.inr.inr.inr.inr =>
      rw [kind_of_mem_managerRelation related]; simp [kind, EntityKind.dependencyKinds]
    all_goals rw [List.mem_singleton.1 related]; simp [kind, EntityKind.dependencyKinds]

/-- What an entity depends on has a key. -/
theorem key?_ne_none_of_mem_dependencies (h : x ∈ e.dependencies) : x.key? ≠ none := by
  have all : ∀ kind ∈ EntityKind.all, ∀ target ∈ kind.dependencyKinds,
      target.isIdentified = true := by decide
  have identified := x.isSome_uuid?
  rw [all e.kind e.kind.mem_all x.kind (kind_of_mem_dependencies h)] at identified
  obtain ⟨uuid, known⟩ := Option.isSome_iff_exists.1 identified
  unfold key?
  rw [known]
  exact Option.some_ne_none _

/-- Loads and plants are no dependencies. -/
theorem kind_ne_of_mem_dependencies (h : x ∈ e.dependencies) : x.kind ≠ .load ∧ x.kind ≠ .chp := by
  have all : ∀ kind ∈ EntityKind.all, ∀ target ∈ kind.dependencyKinds,
      target ≠ .load ∧ target ≠ .chp := by decide
  exact all e.kind e.kind.mem_all x.kind (kind_of_mem_dependencies h)

theorem isUnassigned_of_mem_dependencies (h : x ∈ e.dependencies) : x.isUnassigned = false := by
  obtain ⟨r, relation, related⟩ := List.mem_flatMap.1 h
  rw [persistable_of_mem_relations relation] at related
  simpa using (List.mem_filter.1 related).2

theorem rank_lt_of_mem_dependencies (h : x ∈ e.dependencies) : x.rank < e.rank := by
  obtain ⟨r, relation, related⟩ := List.mem_flatMap.1 h
  exact rank_lt_of_mem_relations relation (Relation.mem_persistable_iff.1 related).1

/-! ## Reaching -/

theorem Reaches.tail (h : root.Reaches x) (dependency : y ∈ x.dependencies) : root.Reaches y := by
  induction h with
  | refl e => exact .step dependency (.refl y)
  | step first _ ih => exact .step first (ih dependency)

theorem Reaches.trans (h : root.Reaches x) (h' : x.Reaches y) : root.Reaches y := by
  induction h with
  | refl e => exact h'
  | step dependency _ ih => exact .step dependency (ih h')

/-- Nothing else is reached from a list that holds its own dependencies. -/
theorem Reaches.mem_of_closed {es : List Entity} (closed : ∀ e ∈ es, ∀ x ∈ e.dependencies, x ∈ es)
    (h : root.Reaches x) (start : root ∈ es) : x ∈ es := by
  induction h with
  | refl e => exact start
  | step dependency _ ih => exact ih (closed _ start _ dependency)

theorem Reaches.key?_ne_none (h : root.Reaches x) (identified : root.key? ≠ none) :
    x.key? ≠ none := by
  induction h with
  | refl e => exact identified
  | step dependency _ ih => exact ih (key?_ne_none_of_mem_dependencies dependency)

theorem Reaches.rank_le (h : root.Reaches x) : x.rank ≤ root.rank := by
  induction h with
  | refl e => exact Nat.le_refl _
  | step dependency _ ih =>
      have lower := rank_lt_of_mem_dependencies dependency
      omega

/-- A load or a plant is reached from itself only. -/
theorem Reaches.eq_root (h : root.Reaches x) (kind : x.kind = .load ∨ x.kind = .chp) :
    x = root := by
  induction h with
  | refl e => rfl
  | step dependency _ ih =>
      have other := kind_ne_of_mem_dependencies dependency
      cases ih kind
      exact absurd kind (not_or.2 other)

/-! ## Depending -/

theorem DependsOn.of_mem (h : y ∈ e.dependencies) : e.DependsOn y := ⟨y, h, .refl y⟩

theorem DependsOn.reaches (h : e.DependsOn y) : e.Reaches y := by
  obtain ⟨x, dependency, reached⟩ := h
  exact .step dependency reached

theorem Reaches.dependsOn (h : root.Reaches x) (dependency : y ∈ x.dependencies) :
    root.DependsOn y := by
  cases h with
  | refl e => exact .of_mem dependency
  | step first rest => exact ⟨_, first, rest.tail dependency⟩

theorem Reaches.dependsOn_trans (h : root.Reaches x) (h' : x.DependsOn y) : root.DependsOn y := by
  cases h with
  | refl e => exact h'
  | step first rest => exact ⟨_, first, rest.trans h'.reaches⟩

theorem DependsOn.key?_ne_none (h : e.DependsOn y) : y.key? ≠ none := by
  obtain ⟨x, dependency, reached⟩ := h
  exact reached.key?_ne_none (key?_ne_none_of_mem_dependencies dependency)

theorem DependsOn.kind_ne (h : e.DependsOn y) : y.kind ≠ .load ∧ y.kind ≠ .chp := by
  obtain ⟨x, dependency, reached⟩ := h
  refine not_or.1 fun top => ?_
  cases reached.eq_root top
  exact not_or.2 (kind_ne_of_mem_dependencies dependency) top

theorem DependsOn.rank_lt (h : e.DependsOn y) : y.rank < e.rank := by
  obtain ⟨x, dependency, reached⟩ := h
  exact Nat.lt_of_le_of_lt reached.rank_le (rank_lt_of_mem_dependencies dependency)

/-! ## Reading the relations -/

/-- Entities of a kind with relations have keys. -/
theorem key?_ne_none_of_relationKinds (h : e.kind.relationKinds ≠ []) : e.key? ≠ none := by
  cases e
  case voltageLevel | irradiance | temperature | wind => exact absurd rfl h
  all_goals exact Option.some_ne_none _

/-- An entity of a kind without relations depends on nothing. -/
theorem dependencies_of_relationKinds (h : e.kind.relationKinds = []) : e.dependencies = [] := by
  have none : e.relations = [] := List.map_eq_nil_iff.1 (e.map_kind_relations.trans h)
  unfold dependencies
  rw [none]
  rfl

/-- What depends on something has a key. -/
theorem key?_ne_none_of_dependency (h : x ∈ e.dependencies) : e.key? ≠ none := by
  apply key?_ne_none_of_relationKinds
  intro none
  rw [dependencies_of_relationKinds none] at h
  cases h

/-- **Reading the relations of an entity succeeds**: what is required is there. -/
theorem direct_domain (h : e.kind.relationKinds ≠ []) :
    RelationAccess.domain.direct e = .ok e.dependencies := by
  have found : RelationAccess.domain.direct e = (do
      if e.dependencies.isEmpty then RelationAccess.domain.acceptEmpty e
      return e.dependencies) := rfl
  rw [found]
  by_cases empty : e.dependencies.isEmpty = true
  · -- only what is optional may be missing
    have optional : RelationAccess.domain.acceptEmpty e = .ok ⟨⟩ := by
      cases e
      case cylindricalStorage s =>
        simp [dependencies, relations, Relation.persistable, isUnassigned] at empty
      all_goals first | rfl | exact absurd rfl h | cases empty
    rw [if_pos empty, optional]
    rfl
  · rw [if_neg empty]
    rfl

/-- An entity of a kind without relations is refused. -/
theorem direct_of_relationKinds (h : e.kind.relationKinds = []) :
    RelationAccess.domain.direct e =
      .error (.extractionConfiguration e.describe "the kind exposes no relations") := by
  have none : e.relations.flatMap Relation.persistable = [] := dependencies_of_relationKinds h
  simp only [RelationAccess.direct, RelationAccess.acceptEmpty, RelationAccess.domain, h]
  show (if (e.relations.flatMap Relation.persistable).isEmpty then _ else _) = _
  rw [none]
  rfl

end Entity

end GridRecords
