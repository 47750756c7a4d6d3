/-
# Chains of energy managers

A manager is a chain of units, its own first.  Whatever an entity leads to is managed by a suffix
of the entity's own chain.  Energy managers are the only entities that lead to entities of their
own kind, so a root leads to its own key exactly if it is a manager whose uuid comes again above
it (`exists_own_key_iff`); and where the uuids of its chain are all different, a key tells the
rank (`rank_eq_of_key?`).

The constructor compares a manager with its parent only: of the uuids of a chain those that
follow each other differ (`Built.isChain_managers`).
-/
import GridRecords.Proofs.Extraction.Reaches
import GridRecords.Proofs.Model.Built
import Mathlib.Data.List.Chain

namespace GridRecords

/-- The units of a manager: its own, and those above. -/
def EnergyManager.units (m : EnergyManager) : List ManagerUnit := m.toManagerUnit :: m.ancestors

/-- The units of an optional manager. -/
def unitsOf (m : Option EnergyManager) : List ManagerUnit := (m.map EnergyManager.units).getD []

/-- The uuids of units. -/
def unitUuids (units : List ManagerUnit) : List Uuid := units.map (·.uuid)

theorem EnergyManager.eq_of_units {a b : EnergyManager} (h : a.units = b.units) : a = b := by
  cases a
  cases b
  cases h
  rfl

theorem unitsOf_parent? (m : EnergyManager) : unitsOf m.parent? = m.ancestors := by
  unfold EnergyManager.parent?
  cases h : m.ancestors <;> rfl

theorem length_unitsOf (m : Option EnergyManager) : (unitsOf m).length = managerRank m := by
  cases m <;> rfl

theorem key?_eq_of_uuid {a m : EnergyManager} (same : a.uuid = m.uuid) :
    (Entity.energyManager a).key? = (Entity.energyManager m).key? :=
  congrArg (fun uuid => some (EntityKey.mk .energyManager uuid)) same

/-- A uuid in a chain is the one at the head of a suffix. -/
theorem exists_suffix_of_mem {units : List ManagerUnit} {uuid : Uuid}
    (h : uuid ∈ unitUuids units) : ∃ u above, u :: above <:+ units ∧ u.uuid = uuid := by
  obtain ⟨u, mem, same⟩ := List.mem_map.1 h
  obtain ⟨below, above, split⟩ := List.append_of_mem mem
  exact ⟨u, above, ⟨below, split.symm⟩, same⟩

/-- The uuids of a chain differ if none comes again above it. -/
theorem nodup_unitUuids {units : List ManagerUnit}
    (h : ∀ u above, u :: above <:+ units → u.uuid ∉ unitUuids above) :
    (unitUuids units).Nodup := by
  induction units with
  | nil => exact List.nodup_nil
  | cons u above ih =>
      refine List.nodup_cons.2 ⟨h u above List.suffix_rfl, ih fun v l suffix => ?_⟩
      exact h v l (suffix.trans (List.suffix_cons _ _))

/-- Where uuids differ, chains of units with one uuid at their heads are equal. -/
theorem eq_of_suffix {units l l' : List ManagerUnit} {u u' : ManagerUnit}
    (nodup : (unitUuids units).Nodup) (h : u :: l <:+ units) (h' : u' :: l' <:+ units)
    (same : u.uuid = u'.uuid) : u :: l = u' :: l' := by
  -- the head of the shorter one would come again behind the head of the longer one
  have inside {a b : ManagerUnit} {k k' : List ManagerUnit} (longer : b :: k' <:+ units)
      (same : a.uuid = b.uuid) (shorter : a :: k <:+ b :: k') : a :: k = b :: k' := by
    rcases List.suffix_cons_iff.1 shorter with equal | proper
    · exact equal
    · have once : (unitUuids (b :: k')).Nodup := nodup.sublist (longer.sublist.map _)
      have again : a.uuid ∈ unitUuids k' := List.mem_map_of_mem (proper.subset List.mem_cons_self)
      rw [same] at again
      exact absurd again (List.nodup_cons.1 once).1
  rcases List.suffix_or_suffix_of_suffix h h' with shorter | shorter
  · exact inside h' same shorter
  · exact (inside h same.symm shorter).symm

/-- What the kind of an entity adds to its rank. -/
def EntityKind.height : EntityKind → Nat
  | .node | .thermalBus => 1
  | .line | .cylindricalStorage | .load => 2
  | .lineGraphic | .chp => 3
  | _ => 0

namespace Entity

variable {root e x y z : Entity} {m : EnergyManager}

/-- The manager directly above an entity. -/
def manager? : Entity → Option EnergyManager
  | energyManager m => m.parent?
  | load l => l.manager
  | chp c => c.manager
  | _ => none

/-- The units that manage an entity.  A manager's own unit is among them. -/
def managers : Entity → List ManagerUnit
  | energyManager m => m.units
  | load l => unitsOf l.manager
  | chp c => unitsOf c.manager
  | _ => []

/-- The one energy manager that an entity depends on is the one directly above. -/
theorem manager_mem_dependencies : energyManager m ∈ e.dependencies ↔ e.manager? = some m := by
  cases e <;>
    simp [dependencies, relations, Relation.persistable, managerRelation, isUnassigned, manager?]

/-- An entity that is no manager is managed by those above it only. -/
theorem managers_cases (e : Entity) :
    e.managers = unitsOf e.manager? ∨ ∃ m, e = energyManager m := by
  cases e
  case energyManager m => exact .inr ⟨m, rfl⟩
  all_goals exact .inl rfl

theorem unitsOf_manager?_suffix (e : Entity) : unitsOf e.manager? <:+ e.managers := by
  rcases e.managers_cases with same | ⟨m, rfl⟩
  · exact ⟨[], same.symm⟩
  · rw [manager?, unitsOf_parent?]
    exact List.suffix_cons _ _

/-- Nothing manages other entities. -/
theorem managers_eq_nil (h : x.kind ≠ .energyManager ∧ x.kind ≠ .load ∧ x.kind ≠ .chp) :
    x.managers = [] := by
  cases x
  case energyManager m => exact absurd rfl h.1
  case load l => exact absurd rfl h.2.1
  case chp c => exact absurd rfl h.2.2
  all_goals rfl

theorem exists_manager_of_kind (h : x.kind = .energyManager) : ∃ m, x = energyManager m := by
  cases x
  case energyManager m => exact ⟨m, rfl⟩
  all_goals cases h

/-- What an entity depends on is managed from above the entity. -/
theorem managers_suffix_of_dependency (h : x ∈ e.dependencies) :
    x.managers <:+ unitsOf e.manager? := by
  by_cases kind : x.kind = .energyManager
  · obtain ⟨m, rfl⟩ := exists_manager_of_kind kind
    rw [manager_mem_dependencies.1 h]
    exact List.suffix_rfl
  · rw [managers_eq_nil ⟨kind, kind_ne_of_mem_dependencies h⟩]
    exact List.nil_suffix

theorem Reaches.managers_suffix (h : root.Reaches x) : x.managers <:+ root.managers := by
  induction h with
  | refl e => exact List.suffix_rfl
  | step dependency _ ih =>
      exact (ih.trans (managers_suffix_of_dependency dependency)).trans (unitsOf_manager?_suffix _)

theorem DependsOn.managers_suffix (h : root.DependsOn x) :
    x.managers <:+ unitsOf root.manager? := by
  obtain ⟨y, dependency, reached⟩ := h
  exact reached.managers_suffix.trans (managers_suffix_of_dependency dependency)

/-- The managers above a manager are what it depends on. -/
theorem dependsOn_of_suffix {a : EnergyManager} (h : a.units <:+ m.ancestors) :
    (energyManager m).DependsOn (energyManager a) := by
  obtain ⟨unit, above⟩ := m
  induction above generalizing unit with
  | nil => exact absurd (List.suffix_nil.1 h) (List.cons_ne_nil _ _)
  | cons u above ih =>
      have parent : energyManager ⟨u, above⟩ ∈ (energyManager ⟨unit, u :: above⟩).dependencies :=
        manager_mem_dependencies.2 rfl
      rcases List.suffix_cons_iff.1 h with equal | higher
      · have same : a = ⟨u, above⟩ := EnergyManager.eq_of_units equal
        rw [same]
        exact .of_mem parent
      · exact ⟨_, parent, (ih u higher).reaches⟩

/-! ## Ranks and keys -/

theorem rank_eq (e : Entity) : e.rank = e.kind.height + e.managers.length := by
  cases e <;>
    simp [rank, kind, EntityKind.height, managers, length_unitsOf, EnergyManager.units] <;> omega

theorem eq_of_key? (same : x.key? = y.key?) (identified : x.key? ≠ none) :
    x.kind = y.kind ∧ x.uuid? = y.uuid? := by
  unfold key? at same identified
  cases uuidX : x.uuid? with
  | none => simp [uuidX] at identified
  | some u =>
      cases uuidY : y.uuid? with
      | none => simp [uuidX, uuidY] at same
      | some v =>
          rw [uuidX, uuidY, Option.map_some, Option.map_some, Option.some.injEq,
            EntityKey.mk.injEq] at same
          exact ⟨same.1, congrArg some same.2⟩

/-- Where the uuids of a chain are all different, a key tells the rank. -/
theorem rank_eq_of_key? (nodup : (unitUuids root.managers).Nodup) (hy : root.Reaches y)
    (hz : root.Reaches z) (same : y.key? = z.key?) (identified : y.key? ≠ none) :
    y.rank = z.rank := by
  obtain ⟨kind, uuid⟩ := eq_of_key? same identified
  by_cases manager : y.kind = .energyManager
  · obtain ⟨a, rfl⟩ := exists_manager_of_kind manager
    obtain ⟨b, rfl⟩ := exists_manager_of_kind (kind.symm.trans manager)
    have units : a.units = b.units :=
      eq_of_suffix nodup hy.managers_suffix hz.managers_suffix (Option.some.inj uuid)
    rw [EnergyManager.eq_of_units units]
  by_cases top : y.kind = .load ∨ y.kind = .chp
  · rw [hy.eq_root top, hz.eq_root (kind ▸ top)]
  · have none : y.managers = [] := managers_eq_nil ⟨manager, not_or.1 top⟩
    rw [kind] at manager top
    rw [rank_eq, rank_eq, none, managers_eq_nil ⟨manager, not_or.1 top⟩, kind]

/-- Only managers lead to entities of their own kind. -/
theorem DependsOn.kind_eq (h : root.DependsOn y) (same : y.kind = root.kind) :
    root.kind = .energyManager := by
  refine Decidable.byContradiction fun other => ?_
  -- without managers, the rank is told by the kind
  have none : y.managers = [] := managers_eq_nil ⟨same ▸ other, h.kind_ne⟩
  have noneR : root.managers = [] := managers_eq_nil ⟨other, same ▸ h.kind_ne⟩
  have lower := h.rank_lt
  rw [rank_eq, rank_eq, none, noneR, same] at lower
  exact Nat.lt_irrefl _ lower

/-- **A root leads to its own key exactly if it is a manager whose uuid comes again above it.** -/
theorem exists_own_key_iff :
    (∃ y, root.DependsOn y ∧ y.key? = root.key?) ↔
      ∃ m, root = energyManager m ∧ m.uuid ∈ unitUuids m.ancestors := by
  constructor
  · rintro ⟨y, depends, same⟩
    obtain ⟨kind, uuid⟩ := eq_of_key? same depends.key?_ne_none
    have manager := depends.kind_eq kind
    obtain ⟨m, rfl⟩ := exists_manager_of_kind manager
    obtain ⟨a, rfl⟩ := exists_manager_of_kind (kind.trans manager)
    refine ⟨m, rfl, ?_⟩
    have above : a.units <:+ m.ancestors := by
      rw [← unitsOf_parent?]
      exact depends.managers_suffix
    rw [← Option.some.inj uuid]
    exact List.mem_map_of_mem (above.subset List.mem_cons_self)
  · rintro ⟨m, rfl, again⟩
    obtain ⟨u, above, suffix, same⟩ := exists_suffix_of_mem again
    exact ⟨energyManager ⟨u, above⟩, dependsOn_of_suffix suffix, key?_eq_of_uuid same⟩

/-! ## Built managers -/

/-- Units that follow each other in the chain of a built manager have different uuids. -/
theorem Built.isChain_units (h : Built (Entity.energyManager m)) :
    (unitUuids m.units).IsChain (· ≠ ·) := by
  obtain ⟨unit, above⟩ := m
  induction above generalizing unit with
  | nil => exact List.isChain_singleton _
  | cons u above ih =>
      obtain ⟨-, hasParent, checked⟩ := h.rebuild_energyManager
      have other := (EnergyManager.checked_eq_ok.1 checked).1 ⟨u, above⟩ rfl
      exact List.isChain_cons_cons.2 ⟨other.symm, ih u (hasParent _ rfl)⟩

/-- So have those in the chain of any entity that was built. -/
theorem Built.isChain_managers (h : root.Built) : (unitUuids root.managers).IsChain (· ≠ ·) := by
  have above {m : Option EnergyManager} (built : ∀ p, m = some p → Built (Entity.energyManager p)) :
      (unitUuids (unitsOf m)).IsChain (· ≠ ·) := by
    cases m with
    | none => exact List.isChain_nil
    | some p => exact (built p rfl).isChain_units
  cases root
  case energyManager m => exact h.isChain_units
  case load l => exact above h.rebuild_load.2.2.1
  case chp c => exact above h.rebuild_chp.2.2.2.2.2.1
  all_goals exact List.isChain_nil

end Entity

end GridRecords
