/-
# The order of writing

What was extracted can be ordered exactly when the noted dependencies form no cycle; then each
entity stands once in the order, behind what it depends on (`persistenceOrder_of_extract`).  The
graph has the root's key as well, which is left out of the order: nothing was extracted under it,
since all that was extracted comes before the root.

Of a coherent root all that it leads to can be written (`exists_persistenceOrder`).  The ranks of
entities are ranks of their keys then, so there is no cycle.
-/
import GridRecords.Proofs.Extraction.Closure
import GridRecords.Proofs.Extraction.Sort

namespace GridRecords

variable {root : Entity}

/-- Each entity of a list comes after all that it depends on. -/
def DependenciesFirst (order : List Entity) : Prop :=
  ∀ before e behind, order = before ++ e :: behind → ∀ x ∈ e.dependencies, x ∈ before

/-- What comes last may depend on all before it. -/
theorem DependenciesFirst.concat {order : List Entity} {last : Entity} (h : DependenciesFirst order)
    (known : ∀ x ∈ last.dependencies, x ∈ order) : DependenciesFirst (order ++ [last]) := by
  intro before e behind split x dependency
  rcases List.eq_nil_or_concat behind with rfl | ⟨behind, y, rfl⟩
  · obtain ⟨rfl, same⟩ := List.append_inj' split rfl
    cases same
    exact known x dependency
  · have parts : order ++ [last] = (before ++ e :: behind) ++ [y] := by
      rw [split, List.concat_eq_append, List.append_assoc, List.cons_append]
    exact h before e behind (List.append_inj' parts rfl).1 x dependency

theorem nodup_eraseDups {α : Type} [BEq α] [LawfulBEq α] (l : List α) : l.eraseDups.Nodup := by
  match l with
  | [] => exact List.nodup_nil
  | a :: rest =>
      rw [List.eraseDups_cons]
      refine List.nodup_cons.2 ⟨?_, nodup_eraseDups _⟩
      rw [List.mem_eraseDups, List.mem_filter]
      simp
termination_by l.length
decreasing_by
  have := List.length_filter_le (fun b => !b == a) rest
  simp_wf
  omega

namespace Extraction

variable {x : Extraction} {branches : List Branch} {e : Entity} {k : EntityKey}

/-! ## The graph of an extraction -/

theorem mem_graph_edges {edge : EntityKey × EntityKey} :
    edge ∈ x.graph.edges ↔ edge ∈ x.edges := List.mem_eraseDups

theorem cyclic_graph : Cyclic x.graph.edges ↔ Cyclic x.edges :=
  ⟨fun h => h.mono fun _ => mem_graph_edges.1, fun h => h.mono fun _ => mem_graph_edges.2⟩

theorem proper_graph (x : Extraction) : x.graph.Proper := by
  refine ⟨nodup_eraseDups _, fun k l mem => ?_⟩
  have both : ∀ key ∈ [k, l], key ∈ x.graph.nodes := by
    intro key pair
    refine List.mem_eraseDups.2 (List.mem_append_right _ (List.mem_flatMap.2 ⟨(k, l), ?_, pair⟩))
    exact mem_graph_edges.1 mem
  exact ⟨both k (by simp), both l (by simp)⟩

/-- The key of what was extracted is a node. -/
theorem mem_graph_nodes (mem : e ∈ x.entities) (key : e.key? = some k) : k ∈ x.graph.nodes :=
  List.mem_eraseDups.2 (List.mem_append_left _ (List.mem_filterMap.2 ⟨e, mem, key⟩))

/-- **An order is refused exactly when the dependencies form a cycle.** -/
theorem persistenceOrder_error_iff (x : Extraction) :
    (∃ f, x.persistenceOrder = .error f) ↔ Cyclic x.edges := by
  have sorts := DependencyGraph.exists_sort_iff x.proper_graph
  rw [cyclic_graph] at sorts
  unfold persistenceOrder
  cases sorted : x.graph.sort with
  | error k =>
      refine ⟨fun _ => ?_, fun _ => ⟨_, rfl⟩⟩
      by_contra acyclic
      obtain ⟨keys, found⟩ := sorts.2 acyclic
      rw [sorted] at found
      cases found
  | ok keys =>
      refine ⟨fun ⟨f, failed⟩ => (by cases failed), fun cyclic => ?_⟩
      exact absurd cyclic (sorts.1 ⟨keys, sorted⟩)

/-! ## What is written -/

/-- The entity that is written for a key: what was extracted under it, unless it is the root's. -/
def written? (x : Extraction) (k : EntityKey) : Option Entity :=
  if some k ≠ x.root.key? then x.find? k else none

/-- Without a cycle, nothing was extracted under the key of the root. -/
theorem Closed.key?_ne_root (closed : x.Closed branches) (acyclic : ¬ Cyclic x.edges)
    (mem : e ∈ x.entities) : e.key? ≠ x.root.key? :=
  fun same => acyclic ((closed.before_root mem).cyclic same)

/-- Without a cycle, all that was extracted is written under its key. -/
theorem Closed.written?_eq_some (closed : x.Closed branches) (acyclic : ¬ Cyclic x.edges) :
    x.written? k = some e ↔ e ∈ x.entities ∧ e.key? = some k := by
  unfold written? find?
  constructor
  · intro found
    split at found
    · exact ⟨List.mem_of_find?_eq_some found, by simpa using List.find?_some found⟩
    · cases found
  · rintro ⟨mem, key⟩
    rw [if_pos (key ▸ closed.key?_ne_root acyclic mem)]
    cases found : x.entities.find? (·.key? = some k) with
    | none =>
        have other := List.find?_eq_none.1 found e mem
        simp [key] at other
    | some y =>
        have keyY : y.key? = some k := by simpa using List.find?_some found
        rw [List.inj_on_of_nodup_map closed.within.keys (List.mem_of_find?_eq_some found) mem
          (keyY.trans key.symm)]

/-- Without a cycle, the order lists what is written for each of the sorted keys. -/
theorem Closed.exists_sorted (closed : x.Closed branches) (acyclic : ¬ Cyclic x.edges) :
    ∃ keys, x.graph.Sorted keys ∧ x.persistenceOrder = .ok (keys.filterMap x.written?) := by
  obtain ⟨keys, found⟩ := (DependencyGraph.exists_sort_iff x.proper_graph).2
    (mt cyclic_graph.1 acyclic)
  refine ⟨keys, DependencyGraph.sorted_of_sort x.proper_graph found, ?_⟩
  -- every extracted entity has a key
  have unkeyed : x.entities.filter (·.key?.isNone) = [] := by
    rw [List.filter_eq_nil_iff]
    intro e mem
    simpa using (closed.within.entities e mem).key?_ne_none
  unfold persistenceOrder
  rw [found]
  simp only [unkeyed, List.nil_append, List.filterMap_filter, decide_eq_true_eq]
  rfl

section

variable {keys : List EntityKey} (closed : x.Closed branches) (acyclic : ¬ Cyclic x.edges)
  (sorted : x.graph.Sorted keys)
include closed acyclic sorted

/-- What is written is what was extracted, each once. -/
theorem Closed.perm_written : (keys.filterMap x.written?).Perm x.entities := by
  have once : (keys.filterMap x.written?).Nodup := by
    refine sorted.nodup.filterMap fun k l e hk hl => ?_
    have keyK := ((closed.written?_eq_some acyclic).1 hk).2
    have keyL := ((closed.written?_eq_some acyclic).1 hl).2
    exact Option.some.inj (keyK.symm.trans keyL)
  refine (List.perm_ext_iff_of_nodup once closed.within.keys.of_map).2 fun e => ?_
  rw [List.mem_filterMap]
  constructor
  · rintro ⟨k, -, found⟩
    exact ((closed.written?_eq_some acyclic).1 found).1
  · intro mem
    obtain ⟨k, key⟩ := Option.ne_none_iff_exists'.1 (closed.within.entities e mem).key?_ne_none
    exact ⟨k, sorted.all k (mem_graph_nodes mem key),
      (closed.written?_eq_some acyclic).2 ⟨mem, key⟩⟩

/-- What is written comes after what represents its dependencies. -/
theorem Closed.represented_before {before behind : List Entity}
    (split : keys.filterMap x.written? = before ++ e :: behind) {y : Entity}
    (dependency : y ∈ e.dependencies) : ∃ z ∈ before, z.key? = y.key? := by
  obtain ⟨keys₁, keys₂, keysEq, first, second⟩ := List.filterMap_eq_append_iff.1 split
  obtain ⟨skipped, k, keys₃, keysEq', none', found, -⟩ := List.filterMap_eq_cons_iff.1 second
  obtain ⟨mem, key⟩ := (closed.written?_eq_some acyclic).1 found
  obtain ⟨⟨z, memZ, keyZ⟩, d, l, keyY, keyE, edge⟩ := closed.covers e (.inr mem) y dependency
  cases key.symm.trans keyE
  have written : x.written? d = some z :=
    (closed.written?_eq_some acyclic).2 ⟨memZ, keyZ.trans keyY⟩
  -- the keys before this one are written before it, or skipped
  have place : d ∈ keys₁ ++ skipped := by
    refine sorted.before (keys₁ ++ skipped) k keys₃ ?_ d
      (DependencyGraph.mem_dependencies.2 (mem_graph_edges.2 edge))
    rw [keysEq, keysEq', List.append_assoc]
  refine ⟨z, ?_, keyZ⟩
  rcases List.mem_append.1 place with place | place
  · rw [← first]
    exact List.mem_filterMap.2 ⟨d, place, written⟩
  · rw [none' d place] at written
    cases written

end

end Extraction

/-! ## Coherent roots -/

/-- Where equal keys mean equal ranks, dependencies form no cycle. -/
theorem Extraction.Closed.not_cyclic {x : Extraction} {branches : List Branch}
    (closed : x.Closed branches)
    (ranked : ∀ y z, x.root.Reaches y → x.root.Reaches z → y.key? = z.key? → y.key? ≠ none →
      y.rank = z.rank) : ¬ Cyclic x.edges := by
  -- keys that nothing has may have any rank
  have each (k : EntityKey) : ∃ n, ∀ e, x.root.Reaches e → e.key? = some k → n = e.rank := by
    by_cases held : ∃ e, x.root.Reaches e ∧ e.key? = some k
    · obtain ⟨e, reached, key⟩ := held
      exact ⟨e.rank, fun y reached' key' =>
        ranked e y reached reached' (key.trans key'.symm) (by rw [key]; exact nofun)⟩
    · exact ⟨0, fun e reached key => absurd ⟨e, reached, key⟩ held⟩
  refine not_cyclic_of_rank (fun k => (each k).choose) fun k l edge => ?_
  obtain ⟨y, z, reached, dependency, keyY, keyZ⟩ := closed.within.edges (k, l) edge
  rw [(each k).choose_spec y (reached.tail dependency) keyY, (each l).choose_spec z reached keyZ]
  exact Entity.rank_lt_of_mem_dependencies dependency

/-- **All that a coherent root leads to can be written**, each entity after all that it depends
on and the root last. -/
theorem exists_persistenceOrder (coherent : root.Coherent) (kinds : root.kind.relationKinds ≠ []) :
    ∃ x order, root.extract = .ok x ∧ x.isComplete = true ∧ x.persistenceOrder = .ok order ∧
      (∀ e ∈ order, root.Reaches e) ∧ DependenciesFirst (order ++ [root]) := by
  obtain ⟨x, branches, extracted, rfl, closed⟩ := exists_extract kinds
  have acyclic : ¬ Cyclic x.edges := closed.not_cyclic fun y z reachedY reachedZ same identified =>
    congrArg Entity.rank (coherent.same y z reachedY reachedZ same identified)
  obtain ⟨keys, sorted, written⟩ := closed.exists_sorted acyclic
  have perm := closed.perm_written acyclic sorted
  have reached : ∀ e ∈ keys.filterMap x.written?, x.root.Reaches e := fun e mem =>
    (closed.within.entities e (perm.mem_iff.1 mem)).reaches
  -- what represents a dependency is the dependency itself
  have same {y z : Entity} (of : x.root.Reaches y) (mem : z ∈ keys.filterMap x.written?)
      (key : z.key? = y.key?) : z = y := by
    have depends := closed.within.entities z (perm.mem_iff.1 mem)
    exact coherent.same z y depends.reaches of key depends.key?_ne_none
  refine ⟨x, _, extracted, ?_, written, reached, .concat ?_ ?_⟩
  · unfold Extraction.isComplete
    rw [closed.failures]
    rfl
  · intro before e behind split y dependency
    obtain ⟨z, mem, key⟩ := closed.represented_before acyclic sorted split dependency
    have listed {w : Entity} (mem : w ∈ before ++ e :: behind) : w ∈ keys.filterMap x.written? :=
      split ▸ mem
    have reachedE := reached e (listed (List.mem_append_right _ List.mem_cons_self))
    rwa [← same (reachedE.tail dependency) (listed (List.mem_append_left _ mem)) key]
  · intro y dependency
    obtain ⟨z, mem, key⟩ := (closed.covers x.root (.inl rfl) y dependency).1
    have listed := perm.mem_iff.2 mem
    rwa [← same (.step dependency (.refl y)) listed key]

/-! ## All roots -/

/-- **What is extracted is ordered for writing.**  The order is refused exactly when the noted
dependencies form a cycle.  Else it lists what was extracted, each entity once and the root never,
and what represents a dependency stands before what depends on it. -/
theorem persistenceOrder_of_extract {x : Extraction} (h : root.extract = .ok x) :
    ((∃ f, x.persistenceOrder = .error f) ↔ Cyclic x.edges) ∧
      ∀ order, x.persistenceOrder = .ok order →
        order.Perm x.entities ∧ (order.map Entity.key?).Nodup ∧
        (∀ e ∈ order, e.key? ≠ root.key?) ∧
        ∀ before e behind, order = before ++ e :: behind →
          ∀ y ∈ e.dependencies, ∃ z ∈ before, z.key? = y.key? := by
  obtain ⟨rfl, branches, closed⟩ := Extraction.closed_of_extract h
  refine ⟨x.persistenceOrder_error_iff, fun order ordered => ?_⟩
  have acyclic : ¬ Cyclic x.edges := by
    rw [← x.persistenceOrder_error_iff]
    rintro ⟨f, failed⟩
    rw [ordered] at failed
    cases failed
  obtain ⟨keys, sorted, written⟩ := closed.exists_sorted acyclic
  rw [written] at ordered
  cases ordered
  have perm := closed.perm_written acyclic sorted
  refine ⟨perm, (perm.map _).nodup_iff.2 closed.within.keys, ?_, ?_⟩
  · exact fun e mem => closed.key?_ne_root acyclic (perm.mem_iff.1 mem)
  · exact fun before e behind split y dependency =>
      closed.represented_before acyclic sorted split dependency

/-- What a manager under two others depends on is ordered. -/
theorem persistenceOrder_of_extract_managerOf :
    ∃ x order, (Entity.energyManager (managerOf 1 [2, 3])).extract = .ok x ∧
      x.persistenceOrder = .ok order ∧ order.Perm x.entities := by
  obtain ⟨x, order, extracted, -, ordered, -, -⟩ :=
    exists_persistenceOrder coherent_managerOf (by decide)
  exact ⟨x, order, extracted, ordered, ((persistenceOrder_of_extract extracted).2 order ordered).1⟩

end GridRecords
