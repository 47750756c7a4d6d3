/-
# Cycles of energy managers

The dependencies of an extraction form a cycle exactly if a uuid comes twice in the root's chain
of managers (`cyclic_iff_of_built`).  A branch meets the managers of a chain one after the other,
until it comes to one whose key it holds; so either it meets all of them, or it has noted a cycle
(`Branch.Walked.met_of_suffix`).

The constructor of managers refuses a manager under itself, and no longer cycles: a manager can
be built under another that is built under a manager with the first one's uuid
(`cyclic_managerOf`).
-/
import GridRecords.Proofs.Extraction.Managers
import GridRecords.Proofs.Extraction.Order

namespace GridRecords

open Entity (energyManager)

variable {root : Entity} {b : Branch} {s a m z : EnergyManager}

/-- A branch met a manager: it started from it or collected it. -/
def Branch.Met (b : Branch) (m : EnergyManager) : Prop :=
  energyManager m = b.start ∨ energyManager m ∈ b.collected.entities

theorem EnergyManager.units_eq_of_parent? (h : m.parent? = some a) :
    m.units = m.toManagerUnit :: a.units := by
  have above : m.ancestors = a.units := by rw [← unitsOf_parent?, h]; rfl
  rw [units, above]

/-! ## What a branch met -/

namespace Branch.Walked

variable (walked : b.Walked root)
include walked

theorem before_of_parent? (met : b.Met m) (parent : m.parent? = some a) :
    (energyManager a).Before b.collected.edges (energyManager m) :=
  .of_notes (walked.covers _ met _ (Entity.manager_mem_dependencies.2 parent)).2

/-- What a branch collected it met below. -/
theorem exists_below (mem : energyManager a ∈ b.collected.entities) :
    ∃ m, b.Met m ∧ m.parent? = some a := by
  obtain ⟨p, of, dependency⟩ := walked.stems _ mem
  have depends : root.DependsOn p := by
    rcases of with rfl | memP
    · exact .of_mem walked.start
    · exact walked.within.entities p memP
  have above := Entity.manager_mem_dependencies.1 dependency
  cases p
  case energyManager m => exact ⟨m, of, above⟩
  case load => exact absurd rfl depends.kind_ne.1
  case chp => exact absurd rfl depends.kind_ne.2
  all_goals cases above

section

variable (start : b.start = energyManager s)
include start

/-- What a branch met is above its start. -/
theorem suffix_of_met (met : b.Met m) : m.units <:+ s.units := by
  rcases met with same | mem
  · rw [start] at same
    cases same
    exact List.suffix_rfl
  · have above := (walked.within.entities _ mem).managers_suffix
    have direct := walked.start
    rw [start, Entity.manager_mem_dependencies] at direct
    rw [direct] at above
    exact above

/-- Whatever lies between the start and a manager that was met was met as well, and depends on
the latter. -/
theorem met_between {a : EnergyManager} (met : b.Met a) (above : a.units <:+ z.units)
    (below : z.units <:+ s.units) :
    b.Met z ∧ (z = a ∨ (energyManager a).Before b.collected.edges (energyManager z)) := by
  by_cases same : a.units.length = z.units.length
  · cases EnergyManager.eq_of_units (above.eq_of_length same)
    exact ⟨met, .inl rfl⟩
  have shorter := above.length_le
  rcases met with isStart | mem
  · -- nothing lies below the start
    rw [start] at isStart
    cases isStart
    have := below.length_le
    omega
  · obtain ⟨p, metP, parent⟩ := walked.exists_below mem
    have units := EnergyManager.units_eq_of_parent? parent
    have noted := walked.before_of_parent? metP parent
    have aboveP : p.units <:+ z.units := by
      refine List.suffix_of_suffix_length_le (walked.suffix_of_met start metP) below ?_
      rw [units, List.length_cons]
      omega
    obtain ⟨metZ, rel⟩ := met_between metP aboveP below
    refine ⟨metZ, .inr ?_⟩
    rcases rel with rfl | before
    · exact noted
    · exact noted.trans before
termination_by s.units.length - a.units.length
decreasing_by
  have := (walked.suffix_of_met start metP).length_le
  simp only [units, List.length_cons] at *
  omega

/-- A branch that notes no cycle goes on from a manager that it met to the one above. -/
theorem met_parent (acyclic : ¬ Cyclic b.collected.edges) (met : b.Met z)
    (parent : z.parent? = some m) : b.Met m := by
  obtain ⟨⟨x, mem, key⟩, -⟩ :=
    walked.covers _ met _ (Entity.manager_mem_dependencies.2 parent)
  have noted := walked.before_of_parent? met parent
  have units := EnergyManager.units_eq_of_parent? parent
  have depends := walked.within.entities x mem
  obtain ⟨a, rfl⟩ :=
    Entity.exists_manager_of_kind (Entity.eq_of_key? key depends.key?_ne_none).1
  have belowA := walked.suffix_of_met start (.inr mem)
  have belowZ := walked.suffix_of_met start met
  have belowM : m.units <:+ s.units := by
    rw [units] at belowZ
    exact (List.suffix_cons _ _).trans belowZ
  rcases List.suffix_or_suffix_of_suffix belowA belowM with higher | lower
  · exact (walked.met_between start (.inr mem) higher belowM).1
  · by_cases same : m.units.length = a.units.length
    · cases EnergyManager.eq_of_units (lower.eq_of_length same)
      exact .inr mem
    · -- what was held under the key lies below, so there is a cycle
      have longer := lower.length_le
      have aboveZ : z.units <:+ a.units := by
        refine List.suffix_of_suffix_length_le belowZ belowA ?_
        rw [units, List.length_cons]
        omega
      refine absurd ?_ acyclic
      rcases (walked.met_between start met aboveZ belowA).2 with rfl | before
      · exact noted.cyclic key.symm
      · exact (noted.trans before).cyclic key.symm

/-- **A branch that notes no cycle meets all managers above its start.** -/
theorem met_of_suffix (acyclic : ¬ Cyclic b.collected.edges) (met : b.Met z)
    (above : a.units <:+ z.units) : b.Met a := by
  obtain ⟨unit, ancestors⟩ := z
  induction ancestors generalizing unit with
  | nil =>
      rcases List.suffix_cons_iff.1 above with equal | none
      · rwa [EnergyManager.eq_of_units equal]
      · exact absurd (List.suffix_nil.1 none) (List.cons_ne_nil _ _)
  | cons u ancestors ih =>
      rcases List.suffix_cons_iff.1 above with equal | higher
      · rwa [EnergyManager.eq_of_units equal]
      · exact ih u (walked.met_parent start acyclic met rfl) higher

/-- Whatever is above a manager comes before it, if the branch notes no cycle. -/
theorem before_of_suffix (acyclic : ¬ Cyclic b.collected.edges) (above : a.units <:+ z.ancestors)
    (below : z.units <:+ s.units) :
    (energyManager a).Before b.collected.edges (energyManager z) := by
  have aboveZ : a.units <:+ z.units := above.trans (List.suffix_cons _ _)
  have met := walked.met_of_suffix start acyclic (.inl start.symm) (aboveZ.trans below)
  rcases (walked.met_between start met aboveZ below).2 with rfl | before
  · -- nothing is above itself
    have := above.length_le
    rw [EnergyManager.units, List.length_cons] at this
    omega
  · exact before

/-- The managers of a branch that notes no cycle have different uuids. -/
theorem nodup_units (acyclic : ¬ Cyclic b.collected.edges) : (unitUuids s.units).Nodup := by
  refine nodup_unitUuids fun u above below again => ?_
  obtain ⟨v, higher, aboveV, same⟩ := exists_suffix_of_mem again
  have before := walked.before_of_suffix start acyclic (a := ⟨v, higher⟩) (z := ⟨u, above⟩)
    aboveV below
  exact acyclic (before.cyclic (key?_eq_of_uuid same))

end

end Branch.Walked

/-! ## All branches -/

section

variable {x : Extraction} {branches : List Branch} (closed : x.Closed branches)
  (acyclic : ¬ Cyclic x.edges)
include closed acyclic

/-- In an extraction without a cycle, the managers above the root have different uuids and come
before the root. -/
theorem Extraction.Closed.managers_above (manager : x.root.manager? = some s) :
    (unitUuids s.units).Nodup ∧
      ∀ a, a.units <:+ s.units → (energyManager a).Before x.edges x.root := by
  have dependency := Entity.manager_mem_dependencies.2 manager
  have direct := Entity.Before.of_notes (closed.covers x.root (.inl rfl) _ dependency).2
  rw [← closed.starts] at dependency
  obtain ⟨b, mem, start⟩ := List.mem_map.1 dependency
  have walked := closed.walked b mem
  have edges := (closed.embeds b mem).edges
  have acyclicB : ¬ Cyclic b.collected.edges := mt (·.mono edges) acyclic
  refine ⟨walked.nodup_units start acyclicB, fun a above => ?_⟩
  rcases List.suffix_cons_iff.1 above with equal | higher
  · rwa [EnergyManager.eq_of_units equal]
  · exact ((walked.before_of_suffix start acyclicB higher List.suffix_rfl).mono edges).trans direct

/-- **In an extraction without a cycle, all managers of the root have different uuids.** -/
theorem Extraction.Closed.nodup_managers : (unitUuids x.root.managers).Nodup := by
  have above : (unitUuids (unitsOf x.root.manager?)).Nodup := by
    cases manager : x.root.manager? with
    | none => exact List.nodup_nil
    | some s => exact (closed.managers_above acyclic manager).1
  rcases x.root.managers_cases with same | ⟨m, own⟩
  · rwa [same]
  · rw [own, Entity.manager?, unitsOf_parent?] at above
    rw [own]
    refine List.nodup_cons.2 ⟨fun again => ?_, above⟩
    cases parent : m.parent? with
    | none =>
        rw [← unitsOf_parent?, parent] at again
        cases again
    | some s =>
        obtain ⟨v, higher, aboveV, same⟩ := exists_suffix_of_mem again
        rw [← unitsOf_parent?, parent] at aboveV
        have before := (closed.managers_above acyclic (by rw [own, Entity.manager?, parent])).2
          ⟨v, higher⟩ aboveV
        rw [own] at before
        exact acyclic (before.cyclic (key?_eq_of_uuid same))

end

/-- **When the dependencies of an entity form a cycle.**  In the chain of managers of an entity that
was built, uuids that follow each other differ.  Only a manager with its own uuid further above
it leads to its own key; and what is noted by an extraction has a cycle, and so no order, exactly
if a uuid comes twice in the chain. -/
theorem cyclic_iff_of_built (built : root.Built) :
    (unitUuids root.managers).IsChain (· ≠ ·) ∧
    ((∃ y, root.DependsOn y ∧ y.key? = root.key?) ↔
      ∃ m, root = energyManager m ∧ m.uuid ∈ unitUuids m.ancestors) ∧
    (root.kind.relationKinds ≠ [] → ∃ x, root.extract = .ok x ∧
      (Cyclic x.edges ↔ ¬ (unitUuids root.managers).Nodup) ∧
      ((∃ order, x.persistenceOrder = .ok order) ↔ (unitUuids root.managers).Nodup)) := by
  refine ⟨built.isChain_managers, Entity.exists_own_key_iff, fun kinds => ?_⟩
  obtain ⟨x, branches, extracted, rfl, closed⟩ := exists_extract kinds
  have cycles : Cyclic x.edges ↔ ¬ (unitUuids x.root.managers).Nodup := by
    constructor
    · intro cyclic nodup
      exact closed.not_cyclic (fun y z => Entity.rank_eq_of_key? nodup) cyclic
    · intro repeats
      by_contra acyclic
      exact repeats (closed.nodup_managers acyclic)
  refine ⟨x, extracted, cycles, ?_⟩
  have fails := x.persistenceOrder_error_iff.trans cycles
  cases ordered : x.persistenceOrder with
  | ok order =>
      refine ⟨fun _ => ?_, fun _ => ⟨order, rfl⟩⟩
      by_contra repeats
      obtain ⟨f, failed⟩ := fails.2 repeats
      rw [ordered] at failed
      cases failed
  | error f => exact ⟨nofun, fun nodup => absurd nodup (fails.1 ⟨f, ordered⟩)⟩

/-- Managers without operators can be built under each other if uuids that follow each other
differ. -/
theorem built_managerOf (n : Nat) (above : List Nat)
    (h : (unitUuids (managerOf n above).units).IsChain (· ≠ ·)) :
    (energyManager (managerOf n above)).Built := by
  have time : OperationTime.unlimited.Built := ⟨none, none, rfl⟩
  induction above generalizing n with
  | nil =>
      have checked : EnergyManager.checked (managerUnit n).toAsset "self optimization" none =
          .ok (managerOf n []) := rfl
      refine .energyManager .unassigned time ?_ checked
      intro p parent
      cases parent
  | cons k above ih =>
      obtain ⟨other, rest⟩ := List.isChain_cons_cons.1 h
      have checked : EnergyManager.checked (managerUnit n).toAsset "self optimization"
          (some (managerOf k above)) = .ok (managerOf n (k :: above)) := by
        refine EnergyManager.checked_eq_ok.2 ⟨?_, rfl, rfl, rfl⟩
        intro p parent
        cases parent
        exact other.symm
      refine .energyManager .unassigned time ?_ checked
      intro p parent
      cases parent
      exact ih k rest

/-- A manager under two others has an order. -/
theorem cyclic_iff_of_built_managerOf :
    ∃ x order, (energyManager (managerOf 1 [2, 3])).extract = .ok x ∧
      x.persistenceOrder = .ok order := by
  obtain ⟨-, -, ordered⟩ := cyclic_iff_of_built (built_managerOf 1 [2, 3] (by decide))
  obtain ⟨x, extracted, -, orders⟩ := ordered (by decide)
  obtain ⟨order, found⟩ := orders.2 (by decide)
  exact ⟨x, order, extracted, found⟩

/-- **A manager can be built above which its own uuid comes again.**  It leads to its own key, and
what is extracted from it has a cycle and no order. -/
theorem cyclic_managerOf :
    (energyManager (managerOf 1 [2, 1])).Built ∧
    (energyManager (managerOf 1 [2, 1])).DependsOn (energyManager (managerOf 1 [])) ∧
    (energyManager (managerOf 1 [])).key? = (energyManager (managerOf 1 [2, 1])).key? ∧
    ∃ x f, (energyManager (managerOf 1 [2, 1])).extract = .ok x ∧ Cyclic x.edges ∧
      x.persistenceOrder = .error f := by
  have repeats : ¬ (unitUuids (managerOf 1 [2, 1]).units).Nodup := by decide
  have kinds : (energyManager (managerOf 1 [2, 1])).kind.relationKinds ≠ [] := by decide
  obtain ⟨x, branches, extracted, root, closed⟩ := exists_extract kinds
  have cyclic : Cyclic x.edges := by
    by_contra acyclic
    have nodup := closed.nodup_managers acyclic
    rw [root] at nodup
    exact repeats nodup
  obtain ⟨f, failed⟩ := x.persistenceOrder_error_iff.2 cyclic
  exact ⟨built_managerOf 1 [2, 1] (by decide), Entity.dependsOn_of_suffix ⟨[managerUnit 2], rfl⟩,
    rfl, x, f, extracted, cyclic, failed⟩

end GridRecords
