/-
# Access to relations

The entities that an entity depends on directly are read through a `RelationAccess`.  The access
of the domain yields the relations of the model; a limited access withholds those of some kinds.

`RelationAccess.direct` refuses an entity that yields nothing although a relation of its kind is
required, or although its kind has no relations at all.
-/
import GridRecords.Model.Relation
import GridRecords.Report.Failure

namespace GridRecords

/-- How relations are read. -/
structure RelationAccess where
  /-- the relations that entities of a kind declare -/
  kinds : EntityKind → List RelationKind
  /-- the relations of an entity -/
  read : Entity → Except Failure (List Relation)

namespace RelationAccess

/-- The relations of the model. -/
def domain : RelationAccess := ⟨EntityKind.relationKinds, fun e => .ok e.relations⟩

/-- The relations of the model, but reading those of `failing` kinds fails, `empty` kinds yield
none, and `untagged` kinds declare none. -/
def limited (failing empty untagged : List EntityKind) : RelationAccess where
  kinds kind := if kind ∈ untagged then [] else kind.relationKinds
  read e :=
    if e.kind ∈ failing then .error (.validation s!"cannot read relations of {e.label}")
    else if e.kind ∈ empty then .ok []
    else .ok e.relations

/-- Whether entities of a kind have relations to follow. -/
def follows (a : RelationAccess) (kind : EntityKind) : Bool := !(a.kinds kind).isEmpty

/-- Accepts that an entity yields nothing if all relations of its kind are optional. -/
def acceptEmpty (a : RelationAccess) (e : Entity) : Except Failure PUnit :=
  if (a.kinds e.kind).isEmpty then
    .error (.extractionConfiguration e.describe "the kind exposes no relations")
  else match (a.kinds e.kind).find? (!·.isOptional) with
    | some required =>
      .error (.extractionConfiguration e.describe
        s!"required relation {required.name} yielded nothing")
    | none => .ok ⟨⟩

/-- The entities that an entity depends on directly and that are persisted on their own. -/
def direct (a : RelationAccess) (e : Entity) : Except Failure (List Entity) := do
  let found := (← a.read e).flatMap Relation.persistable
  if found.isEmpty then a.acceptEmpty e
  return found

end RelationAccess

/-! ## Rank -/

/-- Rank of an optional energy manager, zero if there is none. -/
def managerRank : Option EnergyManager → Nat
  | none => 0
  | some m => m.ancestors.length + 1

/-- A bound on the length of the chains of relations from an entity. -/
def Entity.rank : Entity → Nat
  | operator _ | voltageLevel _ | lineType _ | chpType _ | nodeResult _ | loadResult _
  | timeBasedValue _ | irradiance _ | temperature _ | wind _ => 0
  | node _ | thermalBus _ => 1
  | line _ | cylindricalStorage _ => 2
  | lineGraphic _ => 3
  | energyManager m => m.ancestors.length + 1
  | load l => managerRank l.manager + 2
  | chp c => managerRank c.manager + 3

theorem rank_lt_of_mem_managerRelation {m : Option EnergyManager} {x : Entity}
    (h : x ∈ (Entity.managerRelation m).related) : x.rank = managerRank m := by
  cases m with
  | none => cases h
  | some m => rw [List.mem_singleton.1 h]; rfl

theorem managerRank_parent (m : EnergyManager) : managerRank m.parent? = m.ancestors.length := by
  unfold EnergyManager.parent?
  cases h : m.ancestors <;> rfl

/-- Relations lead to entities of lower rank. -/
theorem Entity.rank_lt_of_mem_relations {e x : Entity} {r : Relation} (hr : r ∈ e.relations)
    (hx : x ∈ r.related) : x.rank < e.rank := by
  cases e <;> simp only [Entity.relations, List.mem_cons, List.not_mem_nil, or_false] at hr
  case node n | thermalBus n =>
    subst hr; rw [List.mem_singleton.1 hx]; simp [rank]
  case line l =>
    rcases hr with rfl | rfl | rfl <;>
      simp only [List.mem_cons, List.not_mem_nil, or_false] at hx
    · rcases hx with rfl | rfl <;> simp [rank]
    · subst hx; simp [rank]
    · subst hx; simp [rank]
  case lineGraphic g => subst hr; rw [List.mem_singleton.1 hx]; simp [rank]
  case load l =>
    rcases hr with rfl | rfl | rfl
    · rw [List.mem_singleton.1 hx]; simp [rank]
    · rw [List.mem_singleton.1 hx]; simp [rank]
    · rw [rank_lt_of_mem_managerRelation hx]; simp [rank]
  case energyManager m =>
    rcases hr with rfl | rfl
    · rw [List.mem_singleton.1 hx]; simp [rank]
    · rw [rank_lt_of_mem_managerRelation hx, managerRank_parent]; simp [rank]
  case chp c =>
    rcases hr with rfl | rfl | rfl | rfl | rfl | rfl
    case inr.inr.inr.inr.inr => rw [rank_lt_of_mem_managerRelation hx]; simp [rank]
    all_goals rw [List.mem_singleton.1 hx]; simp [rank]
  case cylindricalStorage s =>
    rcases hr with rfl | rfl <;> (rw [List.mem_singleton.1 hx]; simp [rank])

end GridRecords
