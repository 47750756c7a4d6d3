/-
# Relations between entities

An entity refers to others through relations of fixed kinds.  Each kind of entity declares the
kinds of its relations, and an instance yields its relations in that order.
-/
import GridRecords.Model.Entity

namespace GridRecords

/-- What one entity is to another. -/
inductive RelationKind where
  | nodes
  | type
  | operator
  | thermalBus
  | thermalStorage
  | line
  | energyManager
deriving DecidableEq, Repr

namespace RelationKind

/-- Name of a relation in messages. -/
def name : RelationKind → String
  | nodes => "has-nodes"
  | type => "has-type"
  | operator => "has-operator"
  | thermalBus => "has-thermal-bus"
  | thermalStorage => "has-thermal-storage"
  | line => "has-line"
  | energyManager => "has-energy-manager"

/-- Whether a relation may yield nothing. -/
def isOptional : RelationKind → Bool
  | operator | energyManager => true
  | _ => false

end RelationKind

/-- A relation of one entity with the entities it leads to. -/
structure Relation where
  kind : RelationKind
  related : List Entity
deriving BEq, Repr

/-- The related entities that are persisted on their own.  Where an operator is what is related,
the placeholder for no operator is left out; every other relation keeps all that it leads to. -/
def Relation.persistable (r : Relation) : List Entity :=
  match r.kind with
  | .operator => r.related.filter (!·.isUnassigned)
  | _ => r.related

theorem Relation.mem_persistable_iff {r : Relation} {x : Entity} :
    x ∈ r.persistable ↔ x ∈ r.related ∧ (r.kind = .operator → x.isUnassigned = false) := by
  obtain ⟨kind, related⟩ := r
  cases kind <;> simp [persistable]

example : (Relation.mk .type [.operator .unassigned]).persistable = [.operator .unassigned] := rfl

/-- The relations that entities of a kind declare. -/
def EntityKind.relationKinds : EntityKind → List RelationKind
  | .node | .thermalBus => [.operator]
  | .line => [.nodes, .type, .operator]
  | .lineGraphic => [.line]
  | .load => [.nodes, .operator, .energyManager]
  | .energyManager => [.operator, .energyManager]
  | .chp => [.nodes, .type, .operator, .thermalBus, .thermalStorage, .energyManager]
  | .cylindricalStorage => [.operator, .thermalBus]
  | .operator | .voltageLevel | .lineType | .chpType | .nodeResult | .loadResult
  | .timeBasedValue | .irradiance | .temperature | .wind => []

namespace Entity

/-- The relation to an energy manager, if there is one. -/
def managerRelation (m : Option EnergyManager) : Relation :=
  ⟨.energyManager, (m.map energyManager).toList⟩

/-- The relations of an entity, in the order its kind declares them. -/
def relations : Entity → List Relation
  | node n => [⟨.operator, [operator n.operator]⟩]
  | line l =>
    [⟨.nodes, [node l.nodeA, node l.nodeB]⟩, ⟨.type, [lineType l.lineType]⟩,
      ⟨.operator, [operator l.operator]⟩]
  | lineGraphic g => [⟨.line, [line g.line]⟩]
  | load l =>
    [⟨.nodes, [node l.node]⟩, ⟨.operator, [operator l.operator]⟩, managerRelation l.manager]
  | energyManager m => [⟨.operator, [operator m.operator]⟩, managerRelation m.parent?]
  | chp c =>
    [⟨.nodes, [node c.node]⟩, ⟨.type, [chpType c.chpType]⟩, ⟨.operator, [operator c.operator]⟩,
      ⟨.thermalBus, [thermalBus c.thermalBus]⟩,
      ⟨.thermalStorage, [cylindricalStorage c.thermalStorage]⟩, managerRelation c.manager]
  | thermalBus b => [⟨.operator, [operator b.operator]⟩]
  | cylindricalStorage s =>
    [⟨.operator, [operator s.operator]⟩, ⟨.thermalBus, [thermalBus s.thermalBus]⟩]
  | operator _ | voltageLevel _ | lineType _ | chpType _ | nodeResult _ | loadResult _
  | timeBasedValue _ | irradiance _ | temperature _ | wind _ => []

/-- The entities that an entity refers to directly and that are persisted on their own. -/
def dependencies (e : Entity) : List Entity := e.relations.flatMap Relation.persistable

/-- An entity yields exactly the relations its kind declares, in order. -/
theorem map_kind_relations (e : Entity) : e.relations.map (·.kind) = e.kind.relationKinds := by
  cases e <;> rfl

/-- Only the operator of an entity can be the placeholder, so it is left out of all relations. -/
theorem persistable_of_mem_relations {e : Entity} {r : Relation} (h : r ∈ e.relations) :
    r.persistable = r.related.filter (!·.isUnassigned) := by
  have manager (m : Option EnergyManager) :
      (managerRelation m).persistable = (managerRelation m).related.filter (!·.isUnassigned) := by
    cases m <;> rfl
  cases e <;> simp only [relations, List.mem_cons, List.not_mem_nil, or_false] at h
  case node | lineGraphic | thermalBus => subst h; rfl
  case line => rcases h with rfl | rfl | rfl <;> rfl
  case load => rcases h with rfl | rfl | rfl <;> first | rfl | exact manager _
  case energyManager => rcases h with rfl | rfl <;> first | rfl | exact manager _
  case chp => rcases h with rfl | rfl | rfl | rfl | rfl | rfl <;> first | rfl | exact manager _
  case cylindricalStorage => rcases h with rfl | rfl <;> rfl

end Entity

end GridRecords
