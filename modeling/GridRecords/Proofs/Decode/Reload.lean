/-
# Writing and loading again

All that an entity leads to is written in the order of its extraction, and loaded again one row
after the other.  Each row finds what it refers to among the rows before it, so nothing is
substituted and every entity comes back (`reload_of_extract`).
-/
import GridRecords.Proofs.Decode.Index
import GridRecords.Proofs.Decode.ReadBack
import GridRecords.Proofs.Extraction.Order

namespace GridRecords

/-- Writes an entity and reads its row, the references resolved through an index. -/
def ReferenceIndex.reread (i : ReferenceIndex) (e : Entity) :
    Decoding (Entity × List Substitution) := do
  let flat ← Decoding.lift e.flatten
  let schema ← Registry.schemaFor e.kind
  i.decodeRow schema e.kind flat.toRecord

/-- Writes entities one after the other and reads the row of each, with what was read before in
the index. -/
def ReferenceIndex.reload (i : ReferenceIndex) :
    List Entity → Decoding (List (Entity × List Substitution))
  | [] => return []
  | e :: rest => do
    let again ← i.reread e
    let others ← (i.insert again.1).reload rest
    return again :: others

variable {policy : BooleanPolicy} {i : ReferenceIndex} {root e : Entity}

/-! ## One row -/

/-- **An entity is read back from its own row**, nothing being substituted. -/
theorem yields_reread (built : e.Built) (assigned : e.isUnassigned = false)
    (finite : ∀ q ∈ e.quantities, q.isFinite = true) (legible : ∀ t ∈ e.timestamps, t.Legible)
    (knows : i.Knows e) : (i.reread e).Yields policy (.ok (e, [])) := by
  have units := built.unitsHeld
  obtain ⟨flat, written⟩ := (Entity.exists_flatten_iff units).2 finite
  have row := Entity.rowOf_toRecord units written
  obtain ⟨resolution, resolved, none, refs⟩ := resolve_of_rowOf knows row
  have decoded : i.plainRow policy e.kind flat.toRecord = .ok (e, []) := by
    unfold ReferenceIndex.plainRow
    rw [resolved]
    show (plainEntity policy e.kind flat.toRecord resolution.context >>= _) = _
    rw [plainEntity_of_rowOf built assigned legible row refs, none]
    rfl
  unfold ReferenceIndex.reread
  rw [written]
  refine (Decoding.Yields.lift (.ok flat)).bind_ok ?_
  refine (Registry.yields_schemaFor e.kind).bind_ok ?_
  rw [← decoded]
  exact yields_decodeRow i e.kind flat.toRecord

/-! ## All rows -/

/-- An index holds entities, each under its uuid. -/
def ReferenceIndex.Holds (i : ReferenceIndex) (es : List Entity) : Prop :=
  ∀ x ∈ es, ∀ uuid, x.uuid? = some uuid → i.get? uuid = some x

/-- Among what a coherent root leads to, the uuid tells the entity. -/
theorem Entity.Coherent.eq_of_uuid? (coherent : root.Coherent) {x y : Entity}
    (hx : root.Reaches x) (hy : root.Reaches y) {uuid : Uuid} (identifiedX : x.uuid? = some uuid)
    (identifiedY : y.uuid? = some uuid) : x = y := by
  have keys : x.key? = y.key? := by
    by_contra other
    exact coherent.apart x y hx hy other (identifiedX.trans identifiedY.symm)
  refine coherent.same x y hx hy keys ?_
  unfold Entity.key?
  rw [identifiedX]
  exact Option.some_ne_none _

/-- Adding an entity leaves the others where they are. -/
theorem ReferenceIndex.Holds.insert (coherent : root.Coherent) {es : List Entity}
    (h : i.Holds es) (reached : ∀ x ∈ es, root.Reaches x) (reachedE : root.Reaches e) :
    (i.insert e).Holds (es ++ [e]) := by
  intro x mem uuid identified
  rcases List.mem_append.1 mem with old | new
  · cases own : e.uuid? with
    | none =>
        rw [ReferenceIndex.insert_of_uuid?_none own]
        exact h x old uuid identified
    | some u =>
        rw [ReferenceIndex.get?_insert own]
        split
        · rename_i same
          rw [← same] at own
          rw [coherent.eq_of_uuid? reachedE (reached x old) own identified]
        · exact h x old uuid identified
  · cases List.mem_singleton.1 new
    rw [ReferenceIndex.get?_insert identified, if_pos rfl]

/-- **Rows that come after all that they refer to are loaded one after the other.** -/
theorem yields_reload (coherent : root.Coherent)
    (finite : ∀ e, root.Reaches e → ∀ q ∈ e.quantities, q.isFinite = true)
    (legible : ∀ e, root.Reaches e → ∀ t ∈ e.timestamps, t.Legible) {before rest : List Entity}
    (reached : ∀ e ∈ before ++ rest, root.Reaches e)
    (built : ∀ e ∈ rest, e.Built ∧ e.isUnassigned = false)
    (first : DependenciesFirst (before ++ rest)) (holds : i.Holds before) :
    (i.reload rest).Yields policy (.ok (rest.map (·, []))) := by
  -- the index holds what was read before, which is all that the next row refers to
  induction rest generalizing i before with
  | nil => exact .pure []
  | cons e rest ih =>
      have here := built e List.mem_cons_self
      have reachedE := reached e (List.mem_append_right _ List.mem_cons_self)
      have knows : i.Knows e := fun x dependency => holds x (first before e rest rfl x dependency)
      have again : (i.reread e).Yields policy (.ok (e, [])) :=
        yields_reread here.1 here.2 (finite e reachedE) (legible e reachedE) knows
      have split : before ++ e :: rest = (before ++ [e]) ++ rest := by simp
      rw [split] at reached first
      have next := ih reached (fun x mem => built x (List.mem_cons_of_mem _ mem)) first
        (holds.insert coherent (fun x mem => reached x (by simp [mem])) reachedE)
      exact again.bind_ok (next.bind_ok (.pure _))

/-- What an entity leads to was built as well. -/
theorem Entity.Built.of_reaches (h : root.Built) (reached : root.Reaches e) : e.Built := by
  induction reached with
  | refl e => exact h
  | step dependency _ ih => exact ih (h.of_mem_dependencies dependency)

/-- Only a root can be the placeholder. -/
theorem Entity.Reaches.isUnassigned (h : root.Reaches e) (assigned : root.isUnassigned = false) :
    e.isUnassigned = false := by
  induction h with
  | refl e => exact assigned
  | step dependency _ ih => exact ih (isUnassigned_of_mem_dependencies dependency)

/-- **All that an entity leads to is written and loaded again**, in the order of its extraction and
without a substitution. -/
theorem reload_of_extract {registry : Registry} (builtin : registry.IsBuiltin policy)
    (built : root.Built) (kinds : root.kind.relationKinds ≠ []) (coherent : root.Coherent)
    (finite : ∀ e, root.Reaches e → ∀ q ∈ e.quantities, q.isFinite = true)
    (legible : ∀ e, root.Reaches e → ∀ t ∈ e.timestamps, t.Legible) :
    ∃ x order, root.extract = .ok x ∧ x.isComplete = true ∧ x.persistenceOrder = .ok order ∧
      (ReferenceIndex.empty.reload (order ++ [root]) registry).1 =
        .ok ((order ++ [root]).map (·, [])) := by
  obtain ⟨x, order, extracted, complete, ordered, reached, first⟩ :=
    exists_persistenceOrder coherent kinds
  refine ⟨x, order, extracted, complete, ordered, ?_⟩
  -- the placeholder is an operator, and operators have no relations
  have assigned : root.isUnassigned = false := by
    cases root <;> first | rfl | exact absurd rfl kinds
  have reached : ∀ e ∈ order ++ [root], root.Reaches e := by
    intro e mem
    rcases List.mem_append.1 mem with mem | mem
    · exact reached e mem
    · rw [List.mem_singleton.1 mem]
      exact .refl root
  have sound : ∀ e ∈ order ++ [root], e.Built ∧ e.isUnassigned = false := fun e mem =>
    ⟨built.of_reaches (reached e mem), (reached e mem).isUnassigned assigned⟩
  have nothing : ReferenceIndex.empty.Holds [] := fun x mem => absurd mem List.not_mem_nil
  have all : (ReferenceIndex.empty.reload (order ++ [root])).Yields policy
      (.ok ((order ++ [root]).map (·, []))) :=
    yields_reload coherent finite legible reached sound first nothing
  obtain ⟨after, run, -⟩ := all registry builtin
  rw [run]

/-- The manager of an area. -/
def areaManager : ManagerUnit where
  uuid := ⟨0x3d2a1b4c000340008000000000000003#128⟩
  id := "area"
  operator := gridOperator
  operationTime := ⟨none, some ⟨1700000000, 250000000, -12600⟩⟩
  controlStrategy := "self optimization"

/-- A manager under the manager of its area, both with one operator. -/
def houseManager : EnergyManager where
  uuid := ⟨0x3d2a1b4c000440008000000000000004#128⟩
  id := "house"
  operator := gridOperator
  operationTime := .unlimited
  controlStrategy := "self optimization"
  ancestors := [areaManager]

theorem built_houseManager : (Entity.energyManager houseManager).Built := by
  have operator : Entity.Built (.operator gridOperator) :=
    .operator (Operator.checked_eq_ok.2 ⟨by decide, rfl⟩)
  have area : Entity.Built (.energyManager ⟨areaManager, []⟩) := by
    have time : areaManager.operationTime.Built := ⟨none, areaManager.operationTime.finish, rfl⟩
    have checked : EnergyManager.checked areaManager.toAsset areaManager.controlStrategy none =
        .ok ⟨areaManager, []⟩ := rfl
    refine .energyManager operator time ?_ checked
    intro p parent
    cases parent
  have time : houseManager.operationTime.Built := ⟨none, none, rfl⟩
  have checked : EnergyManager.checked houseManager.toAsset houseManager.controlStrategy
      (some ⟨areaManager, []⟩) = .ok houseManager := rfl
  refine .energyManager operator time ?_ checked
  intro p parent
  cases parent
  exact area

/-- The manager of the house and all that it leads to. -/
def household : List Entity :=
  [.energyManager houseManager, .energyManager ⟨areaManager, []⟩, .operator gridOperator]

theorem mem_household {e : Entity} (h : (Entity.energyManager houseManager).Reaches e) :
    e ∈ household := by
  have house : (Entity.energyManager houseManager).dependencies =
      [.operator gridOperator, .energyManager ⟨areaManager, []⟩] := rfl
  have area : (Entity.energyManager ⟨areaManager, []⟩).dependencies =
      [.operator gridOperator] := rfl
  have operator : (Entity.operator gridOperator).dependencies = [] := rfl
  have closed : ∀ e ∈ household, ∀ x ∈ e.dependencies, x ∈ household := by
    simp [household, house, area, operator]
  exact h.mem_of_closed closed List.mem_cons_self

/-- The uuids of the household are all different. -/
theorem coherent_houseManager : (Entity.energyManager houseManager).Coherent := by
  constructor
  · intro x y hx hy same
    have hx := mem_household hx
    have hy := mem_household hy
    simp only [household, List.mem_cons, List.not_mem_nil, or_false] at hx hy
    rcases hx with rfl | rfl | rfl <;> rcases hy with rfl | rfl | rfl <;>
      first | exact fun _ => rfl | exact absurd same (by decide)
  · intro x y hx hy other
    have hx := mem_household hx
    have hy := mem_household hy
    simp only [household, List.mem_cons, List.not_mem_nil, or_false] at hx hy
    rcases hx with rfl | rfl | rfl <;> rcases hy with rfl | rfl | rfl <;>
      first | exact absurd rfl other | decide

/-- Two managers are loaded again with the operator that they share. -/
theorem reload_of_extract_houseManager :
    ∃ x order, (Entity.energyManager houseManager).extract = .ok x ∧ x.isComplete = true ∧
      x.persistenceOrder = .ok order ∧
      (ReferenceIndex.empty.reload (order ++ [Entity.energyManager houseManager])
        strictRegistry).1 = .ok ((order ++ [Entity.energyManager houseManager]).map (·, [])) := by
  refine reload_of_extract isBuiltin_strictRegistry built_houseManager (by decide)
    coherent_houseManager ?_ ?_
  · intro e he
    have quantities : ∀ e ∈ household, e.quantities = [] := by decide
    rw [quantities e (mem_household he)]
    simp
  · intro e he t mem
    have timestamps : ∀ e ∈ household, ∀ t ∈ e.timestamps,
        t = ⟨1700000000, 250000000, -12600⟩ := by decide
    rw [timestamps e (mem_household he) t mem]
    exact ⟨⟨⟨by decide, by decide⟩, by decide, by decide⟩, by decide⟩

/-- The manager leads to nothing else. -/
theorem eq_of_reaches_stretchedManager {e : Entity}
    (h : (Entity.energyManager stretchedManager).Reaches e) :
    e = .energyManager stretchedManager := by
  refine List.mem_singleton.1 (h.mem_of_closed ?_ List.mem_cons_self)
  rw [List.forall_mem_singleton, dependencies_stretchedManager]
  exact List.forall_mem_nil _

theorem coherent_stretchedManager : (Entity.energyManager stretchedManager).Coherent := by
  constructor
  · intro x y hx hy _ _
    rw [eq_of_reaches_stretchedManager hx, eq_of_reaches_stretchedManager hy]
  · intro x y hx hy other
    rw [eq_of_reaches_stretchedManager hx, eq_of_reaches_stretchedManager hy] at other
    exact absurd rfl other

/-- The manager is not loaded again as it was written. -/
theorem not_reload_of_extract_stretched :
    (Entity.energyManager stretchedManager).Built ∧
      EntityKind.energyManager.relationKinds ≠ [] ∧
      (Entity.energyManager stretchedManager).Coherent ∧
      (∀ e, (Entity.energyManager stretchedManager).Reaches e →
        (∀ q ∈ e.quantities, q.isFinite = true) ∧ ∀ t ∈ e.timestamps, t.Printable) ∧
      ∃ x e, (Entity.energyManager stretchedManager).extract = .ok x ∧
        x.persistenceOrder = .ok [] ∧
        (ReferenceIndex.empty.reload [.energyManager stretchedManager] strictRegistry).1 =
          .ok [(e, [])] ∧
        (e == Entity.energyManager stretchedManager) = false := by
  have extracts : (do
      let x ← (Entity.energyManager stretchedManager).extract
      x.persistenceOrder : Except Failure (List Entity)).toOption.any List.isEmpty = true := by
    decide
  have evaluated : (ReferenceIndex.empty.reload [.energyManager stretchedManager]
      strictRegistry).1.toOption.any (fun again =>
        decide (again.map (·.2) = [[]]) &&
          again.all fun step => !(step.1 == Entity.energyManager stretchedManager)) = true := by
    decide +kernel
  obtain ⟨order, run, empty⟩ := Outcome.exists_of_any extracts
  obtain ⟨x, extracted, ordered⟩ := Outcome.bind_eq_ok.1 run
  rw [List.isEmpty_iff.1 empty] at ordered
  obtain ⟨again, reloaded, other⟩ := Outcome.exists_of_any evaluated
  rw [Bool.and_eq_true, decide_eq_true_eq] at other
  obtain ⟨alone, other⟩ := other
  obtain ⟨⟨e, substitutions⟩, rfl, rfl⟩ := List.map_eq_singleton_iff.1 alone
  refine ⟨built_stretchedManager, by decide, coherent_stretchedManager, fun e reached => ?_, x, e,
    extracted, ordered, reloaded, by simpa using other⟩
  cases eq_of_reaches_stretchedManager reached
  rw [quantities_stretchedManager]
  exact ⟨List.forall_mem_nil _, fun t => printable_stretchedManager⟩

end GridRecords
