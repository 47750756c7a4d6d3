/-
# Sorting dependencies

A search that ends has listed all keys (`Tracks`), and a list is refused unless each key stands
behind its dependencies; so what is sorted has no cycle (`Sorted.not_cyclic`).

Where there is no cycle, ranks rise from each dependency to its dependents.  `Progress` is what a
search preserves then: a key that was reached but is not listed yet waits on the stack below its
dependents, and all that lies above it has a higher rank.  So the search ends, and its list is
accepted (`exists_sort_iff`).
-/
import GridRecords.Extraction.Order
import GridRecords.Proofs.Extraction.Cycles
import GridRecords.Proofs.Outcome

namespace GridRecords.DependencyGraph

variable {g : DependencyGraph} {rank : EntityKey → Nat}

/-- A graph without repetitions, whose edges lie between its nodes. -/
structure Proper (g : DependencyGraph) : Prop where
  nodup : g.nodes.Nodup
  ends : ∀ k l, (k, l) ∈ g.edges → k ∈ g.nodes ∧ l ∈ g.nodes

/-- Ranks rise along dependencies. -/
structure Rises (g : DependencyGraph) (rank : EntityKey → Nat) : Prop extends g.Proper where
  lt : ∀ k l, (k, l) ∈ g.edges → rank k < rank l

/-- All keys of a graph, each once and behind its dependencies. -/
structure Sorted (g : DependencyGraph) (keys : List EntityKey) : Prop where
  nodup : keys.Nodup
  all : ∀ k ∈ g.nodes, k ∈ keys
  before : ∀ l₁ k l₂, keys = l₁ ++ k :: l₂ → ∀ d ∈ g.dependencies k, d ∈ l₁

theorem mem_dependents {k l : EntityKey} : l ∈ g.dependents k ↔ (k, l) ∈ g.edges := by
  unfold dependents
  simp

theorem mem_dependencies {k l : EntityKey} : k ∈ g.dependencies l ↔ (k, l) ∈ g.edges := by
  unfold dependencies
  simp

/-! ## Searches that end -/

/-- What was reached is listed, once, or lies on the stack, and does not depend on itself. -/
structure Tracks (g : DependencyGraph) (fresh finished stack : List EntityKey) : Prop where
  nodup : finished.Nodup
  reached : ∀ k ∈ g.nodes, k ∉ fresh → (k ∈ finished ∨ k ∈ stack) ∧ k ∉ g.dependents k

theorem mem_finish {fresh finished : List EntityKey} {top k : EntityKey} :
    k ∈ (Search.finish ⟨fresh, finished⟩ top).finished ↔ k = top ∨ k ∈ finished := by
  unfold Search.finish
  split
  · rename_i done
    constructor
    · exact .inr
    · rintro (rfl | old)
      · exact done
      · exact old
  · exact List.mem_cons

theorem nodup_finish {fresh finished : List EntityKey} (h : finished.Nodup) (top : EntityKey) :
    (Search.finish ⟨fresh, finished⟩ top).finished.Nodup := by
  unfold Search.finish
  split
  · exact h
  · rename_i new
    exact List.nodup_cons.2 ⟨new, h⟩

/-- A fresh key at the top is reached. -/
theorem Tracks.visit {fresh finished stack next : List EntityKey} {top : EntityKey}
    (h : g.Tracks fresh finished (top :: stack)) (loop : top ∉ g.dependents top) :
    g.Tracks (fresh.erase top) finished (next ++ top :: stack) := by
  refine ⟨h.nodup, fun k node left => ?_⟩
  by_cases same : k = top
  · subst same
    exact ⟨.inr (List.mem_append_right _ List.mem_cons_self), loop⟩
  · have known := h.reached k node fun mem => left ((List.mem_erase_of_ne same).2 mem)
    exact ⟨known.1.imp_right (List.mem_append_right _), known.2⟩

/-- The key at the top is listed. -/
theorem Tracks.finish {fresh finished stack : List EntityKey} {top : EntityKey}
    (h : g.Tracks fresh finished (top :: stack)) :
    g.Tracks fresh (Search.finish ⟨fresh, finished⟩ top).finished stack := by
  refine ⟨nodup_finish h.nodup top, fun k node left => ?_⟩
  obtain ⟨place, loop⟩ := h.reached k node left
  refine ⟨?_, loop⟩
  rw [mem_finish]
  rcases place with old | waiting
  · exact .inl (.inr old)
  · exact (List.mem_cons.1 waiting).imp_left .inl

/-- A search that ends has listed all that it reached, and reached all on its stack. -/
theorem searchStack_spec (fresh finished stack : List EntityKey) {s : Search}
    (h : g.searchStack fresh finished stack = .ok s) (tracks : g.Tracks fresh finished stack) :
    g.Tracks s.fresh s.finished [] ∧ (∀ k ∈ s.fresh, k ∈ fresh) ∧ ∀ k ∈ stack, k ∉ s.fresh := by
  fun_induction searchStack g fresh finished stack with
  | case1 fresh finished =>
      cases h
      exact ⟨tracks, fun _ mem => mem, by simp⟩
  | case2 => cases h
  | case3 fresh finished top stack reached loop fresh' next ih =>
      obtain ⟨after, fewer, passed⟩ := ih h (tracks.visit loop)
      exact ⟨after, fun k mem => List.mem_of_mem_erase (fewer k mem),
        fun k mem => passed k (List.mem_append_right _ mem)⟩
  | case4 fresh finished top stack reached ih =>
      obtain ⟨after, fewer, passed⟩ := ih h tracks.finish
      refine ⟨after, fewer, fun k mem => ?_⟩
      rcases List.mem_cons.1 mem with rfl | mem
      · exact fun left => reached (fewer k left)
      · exact passed k mem

/-- Searches from several keys that end have reached each of them. -/
theorem searches_spec {keys : List EntityKey} {s t : Search}
    (h : keys.foldlM (fun s k =>
      if k ∈ s.fresh then g.searchStack s.fresh s.finished [k] else .ok s) s = .ok t)
    (tracks : g.Tracks s.fresh s.finished []) :
    g.Tracks t.fresh t.finished [] ∧ (∀ k ∈ t.fresh, k ∈ s.fresh) ∧ ∀ k ∈ keys, k ∉ t.fresh := by
  induction keys generalizing s with
  | nil =>
      cases h
      exact ⟨tracks, fun _ mem => mem, fun k mem => absurd mem List.not_mem_nil⟩
  | cons key rest ih =>
      rw [List.foldlM_cons] at h
      obtain ⟨next, step, others⟩ := Outcome.bind_eq_ok.1 h
      have first : g.Tracks next.fresh next.finished [] ∧ (∀ k ∈ next.fresh, k ∈ s.fresh) ∧
          key ∉ next.fresh := by
        split at step
        · have start : g.Tracks s.fresh s.finished [key] :=
            ⟨tracks.nodup, fun k node left =>
              (tracks.reached k node left).imp_left fun place => place.imp_right nofun⟩
          obtain ⟨after, fewer, passed⟩ := searchStack_spec _ _ _ step start
          exact ⟨after, fewer, passed key List.mem_cons_self⟩
        · rename_i left
          cases step
          exact ⟨tracks, fun _ mem => mem, left⟩
      obtain ⟨after, fewer, passed⟩ := ih others first.1
      refine ⟨after, fun k mem => first.2.1 k (fewer k mem), fun k mem => ?_⟩
      rcases List.mem_cons.1 mem with rfl | mem
      · exact fun left => first.2.2 (fewer k left)
      · exact passed k mem

/-- Searches from all keys that end have listed all keys, each once; none depends on itself. -/
theorem searchAll_spec {s : Search} (h : g.searchAll = .ok s) :
    s.finished.Nodup ∧ ∀ k ∈ g.nodes, k ∈ s.finished ∧ k ∉ g.dependents k := by
  obtain ⟨after, -, passed⟩ := searches_spec h ⟨List.nodup_nil, fun k node left => absurd node left⟩
  refine ⟨after.nodup, fun k node => ?_⟩
  exact (after.reached k node (passed k node)).imp_left fun place =>
    place.resolve_right List.not_mem_nil

/-- Nothing is out of place exactly when each key stands behind its other dependencies. -/
theorem misplaced?_eq_none_iff {before keys : List EntityKey} :
    g.misplaced? before keys = none ↔
      ∀ l₁ k l₂, keys = l₁ ++ k :: l₂ →
        ∀ d ∈ g.dependencies k, d = k ∨ d ∈ before ∨ d ∈ l₁ := by
  induction keys generalizing before with
  | nil => simp [misplaced?]
  | cons key rest ih =>
      have step : g.misplaced? before (key :: rest) = none ↔
          (∀ d ∈ g.dependencies key, d ∈ key :: before) ∧
            g.misplaced? (key :: before) rest = none := by
        rw [misplaced?]
        split
        · rename_i d last
          have mem := List.mem_of_getLast? last
          rw [List.mem_filter, decide_eq_true_iff] at mem
          exact ⟨nofun, fun h => absurd (h.1 d mem.1) mem.2⟩
        · rename_i none
          rw [List.getLast?_eq_none_iff, List.filter_eq_nil_iff] at none
          simp only [decide_eq_true_eq, not_not] at none
          exact (and_iff_right none).symm
      rw [step, ih]
      constructor
      · rintro ⟨first, others⟩ l₁ k l₂ split d mem
        cases l₁ with
        | nil =>
            cases split
            exact (List.mem_cons.1 (first d mem)).imp_right .inl
        | cons x l₁ =>
            cases split
            rcases others l₁ k l₂ rfl d mem with same | known | known
            · exact .inl same
            · rcases List.mem_cons.1 known with rfl | known
              · exact .inr (.inr List.mem_cons_self)
              · exact .inr (.inl known)
            · exact .inr (.inr (List.mem_cons_of_mem _ known))
      · intro all
        refine ⟨fun d mem => ?_, fun l₁ k l₂ split d mem => ?_⟩
        · rcases all [] key rest rfl d mem with same | known | known
          · exact List.mem_cons.2 (.inl same)
          · exact List.mem_cons_of_mem _ known
          · exact absurd known List.not_mem_nil
        · rcases all (key :: l₁) k l₂ (by rw [split, List.cons_append]) d mem with
            same | known | known
          · exact .inl same
          · exact .inr (.inl (List.mem_cons_of_mem _ known))
          · rcases List.mem_cons.1 known with rfl | known
            · exact .inr (.inl List.mem_cons_self)
            · exact .inr (.inr known)

/-- What is sorted is a list of all keys, each behind its dependencies. -/
theorem sorted_of_sort {keys : List EntityKey} (proper : g.Proper) (h : g.sort = .ok keys) :
    g.Sorted keys := by
  obtain ⟨s, found, rest⟩ := Outcome.bind_eq_ok.1 h
  obtain ⟨nodup, all⟩ := searchAll_spec found
  split at rest
  · cases rest
  · rename_i inPlace
    cases rest
    refine ⟨nodup, fun k node => (all k node).1, ?_⟩
    intro l₁ k l₂ split d mem
    have edge := mem_dependencies.1 mem
    rcases misplaced?_eq_none_iff.1 inPlace l₁ k l₂ split d mem with rfl | known | known
    · exact absurd (mem_dependents.2 edge) (all d (proper.ends d d edge).1).2
    · exact absurd known List.not_mem_nil
    · exact known

/-- **What is sorted has no cycle.** -/
theorem Sorted.not_cyclic {keys : List EntityKey} (sorted : g.Sorted keys) (proper : g.Proper) :
    ¬ Cyclic g.edges := by
  -- the place in the list is a rank
  refine not_cyclic_of_rank keys.idxOf fun k l edge => ?_
  obtain ⟨l₁, l₂, split⟩ := List.append_of_mem (sorted.all l (proper.ends k l edge).2)
  have before := sorted.before l₁ l l₂ split k (mem_dependencies.2 edge)
  have nodup := sorted.nodup
  rw [split] at nodup ⊢
  have apart : l ∉ l₁ := fun mem => (List.nodup_append.1 nodup).2.2 l mem l List.mem_cons_self rfl
  rw [List.idxOf_append_of_mem before, List.idxOf_append_of_notMem apart, List.idxOf_cons_self]
  exact Nat.lt_of_lt_of_le (List.idxOf_lt_length_of_mem before) (Nat.le_add_right _ _)

/-! ## Searching without cycles -/

/-- Each key of a list stands before those that depend on it. -/
def Listed (g : DependencyGraph) : List EntityKey → Prop
  | [] => True
  | k :: rest => (∀ d ∈ g.dependents k, d ∈ rest) ∧ g.Listed rest

/-- A key waits on a stack: what lies above it has a higher rank, and each of its dependents
lies above it or is listed. -/
def Waits (g : DependencyGraph) (rank : EntityKey → Nat) (finished stack : List EntityKey)
    (k : EntityKey) : Prop :=
  ∃ above below, stack = above ++ k :: below ∧ k ∉ above ∧ (∀ x ∈ above, rank k < rank x) ∧
    ∀ d ∈ g.dependents k, d ∈ finished ∨ d ∈ above

/-- How far a search has come. -/
structure Progress (g : DependencyGraph) (rank : EntityKey → Nat)
    (fresh finished stack : List EntityKey) : Prop where
  nodup : fresh.Nodup
  listed : g.Listed finished
  stacked : ∀ k ∈ stack, k ∈ g.nodes
  waits : ∀ k ∈ g.nodes, k ∉ fresh → k ∉ finished → g.Waits rank finished stack k

/-- A key that waits below another one has a lower rank. -/
theorem Waits.below {finished stack : List EntityKey} {k top : EntityKey}
    (h : g.Waits rank finished (top :: stack) k) (other : k ≠ top) :
    ∃ above below, stack = above ++ k :: below ∧ k ∉ above ∧
      (∀ x ∈ top :: above, rank k < rank x) ∧
      ∀ d ∈ g.dependents k, d ∈ finished ∨ d ∈ top :: above := by
  obtain ⟨above, below, split, first, higher, dependents⟩ := h
  cases above with
  | nil =>
      rw [List.nil_append, List.cons.injEq] at split
      exact absurd split.1.symm other
  | cons x above =>
      rw [List.cons_append, List.cons.injEq] at split
      obtain ⟨rfl, rest⟩ := split
      exact ⟨above, below, rest, fun mem => first (List.mem_cons_of_mem _ mem), higher, dependents⟩

/-- A key goes on waiting when keys of higher ranks are put above the top of the stack. -/
theorem Waits.push {finished stack next : List EntityKey} {k top : EntityKey}
    (h : g.Waits rank finished (top :: stack) k) (other : k ≠ top) (new : k ∉ next)
    (higher : ∀ x ∈ next, rank top < rank x) : g.Waits rank finished (next ++ top :: stack) k := by
  obtain ⟨above, below, rest, first, lower, dependents⟩ := h.below other
  refine ⟨next ++ top :: above, below, ?_, ?_, ?_, ?_⟩
  · rw [rest, List.append_assoc, List.cons_append]
  · rw [List.mem_append, List.mem_cons, not_or, not_or]
    exact ⟨new, other, first⟩
  · intro x mem
    rcases List.mem_append.1 mem with pushed | old
    · exact Nat.lt_trans (lower top List.mem_cons_self) (higher x pushed)
    · exact lower x old
  · intro d dependent
    exact (dependents d dependent).imp_right (List.mem_append_right _)

/-- A key goes on waiting when the top of the stack is listed. -/
theorem Waits.pop {finished after stack : List EntityKey} {k top : EntityKey}
    (h : g.Waits rank finished (top :: stack) k) (other : k ≠ top) (listed : top ∈ after)
    (kept : ∀ x ∈ finished, x ∈ after) : g.Waits rank after stack k := by
  obtain ⟨above, below, rest, first, lower, dependents⟩ := h.below other
  refine ⟨above, below, rest, first, fun x mem => lower x (List.mem_cons_of_mem _ mem), ?_⟩
  intro d dependent
  rcases dependents d dependent with known | mem
  · exact .inl (kept d known)
  · rcases List.mem_cons.1 mem with rfl | mem
    · exact .inl listed
    · exact .inr mem

section

variable {fresh finished stack : List EntityKey} {top : EntityKey}

/-- A dependent of the top that was reached is listed. -/
theorem Progress.mem_finished_of_dependent (rises : g.Rises rank)
    (h : g.Progress rank fresh finished (top :: stack)) {d : EntityKey}
    (dependent : d ∈ g.dependents top) (reached : d ∉ fresh) : d ∈ finished := by
  have edge := mem_dependents.1 dependent
  have higher := rises.lt top d edge
  have other : d ≠ top := by
    rintro rfl
    exact Nat.lt_irrefl _ higher
  refine Decidable.byContradiction fun waiting => ?_
  -- if it waited, it would lie below the top and have a lower rank
  obtain ⟨above, below, -, -, lower, -⟩ :=
    (h.waits d (rises.ends top d edge).2 reached waiting).below other
  have := lower top List.mem_cons_self
  omega

/-- A fresh key at the top is reached, and its fresh dependents are put above it. -/
theorem Progress.visit (rises : g.Rises rank) (h : g.Progress rank fresh finished (top :: stack)) :
    g.Progress rank (fresh.erase top) finished
      (((g.dependents top).filter (· ∈ fresh.erase top)).reverse ++ top :: stack) := by
  have gone : top ∉ fresh.erase top := h.nodup.not_mem_erase
  have mem_next {x : EntityKey} :
      x ∈ ((g.dependents top).filter (· ∈ fresh.erase top)).reverse ↔
        x ∈ g.dependents top ∧ x ∈ fresh.erase top := by
    rw [List.mem_reverse, List.mem_filter, decide_eq_true_iff]
  have higher : ∀ x ∈ ((g.dependents top).filter (· ∈ fresh.erase top)).reverse,
      rank top < rank x := fun x mem => rises.lt top x (mem_dependents.1 (mem_next.1 mem).1)
  refine ⟨h.nodup.erase top, h.listed, ?_, ?_⟩
  · intro k mem
    rcases List.mem_append.1 mem with next | old
    · exact (rises.ends top k (mem_dependents.1 (mem_next.1 next).1)).2
    · exact h.stacked k old
  · intro k node left waiting
    by_cases same : k = top
    · subst same
      refine ⟨_, stack, rfl, fun mem => gone (mem_next.1 mem).2, higher, ?_⟩
      intro d dependent
      by_cases next : d ∈ fresh.erase k
      · exact .inr (mem_next.2 ⟨dependent, next⟩)
      · have other : d ≠ k := by
          rintro rfl
          exact Nat.lt_irrefl _ (rises.lt d d (mem_dependents.1 dependent))
        exact .inl (h.mem_finished_of_dependent rises dependent fun mem =>
          next ((List.mem_erase_of_ne other).2 mem))
    · have reached : k ∉ fresh := fun mem => left ((List.mem_erase_of_ne same).2 mem)
      exact (h.waits k node reached waiting).push same (fun mem => left (mem_next.1 mem).2) higher

/-- Nothing lies above the top, so all its dependents are listed when its turn comes. -/
theorem Progress.dependents_listed (h : g.Progress rank fresh finished (top :: stack))
    (reached : top ∉ fresh) (waiting : top ∉ finished) :
    ∀ d ∈ g.dependents top, d ∈ finished := by
  obtain ⟨above, below, split, first, -, dependents⟩ :=
    h.waits top (h.stacked top List.mem_cons_self) reached waiting
  cases above with
  | nil => exact fun d dependent => (dependents d dependent).resolve_right List.not_mem_nil
  | cons x above =>
      rw [List.cons_append, List.cons.injEq] at split
      rw [← split.1] at first
      exact absurd List.mem_cons_self first

/-- A key at the top that was reached before is listed. -/
theorem Progress.finish (h : g.Progress rank fresh finished (top :: stack))
    (reached : top ∉ fresh) :
    g.Progress rank fresh (Search.finish ⟨fresh, finished⟩ top).finished stack := by
  refine ⟨h.nodup, ?_, fun k mem => h.stacked k (List.mem_cons_of_mem _ mem), ?_⟩
  · unfold Search.finish
    by_cases done : top ∈ finished
    · rw [if_pos done]
      exact h.listed
    · rw [if_neg done]
      exact ⟨h.dependents_listed reached done, h.listed⟩
  · intro k node left waiting
    rw [mem_finish, not_or] at waiting
    exact (h.waits k node left waiting.2).pop waiting.1 (mem_finish.2 (.inl rfl))
      fun _ mem => mem_finish.2 (.inr mem)

end

/-- **A search along rising ranks meets no cycle.** -/
theorem exists_searchStack (rises : g.Rises rank) (fresh finished stack : List EntityKey)
    (h : g.Progress rank fresh finished stack) :
    ∃ s, g.searchStack fresh finished stack = .ok s ∧ g.Progress rank s.fresh s.finished [] := by
  fun_induction searchStack g fresh finished stack with
  | case1 fresh finished => exact ⟨_, rfl, h⟩
  | case2 fresh finished top stack reached loop =>
      exact absurd (rises.lt top top (mem_dependents.1 loop)) (Nat.lt_irrefl _)
  | case3 fresh finished top stack reached loop fresh' next ih => exact ih (h.visit rises)
  | case4 fresh finished top stack reached ih => exact ih (h.finish reached)

/-- With nothing on the stack, a search can start from any key. -/
theorem Progress.start {fresh finished : List EntityKey} {k : EntityKey}
    (h : g.Progress rank fresh finished []) (node : k ∈ g.nodes) :
    g.Progress rank fresh finished [k] := by
  refine ⟨h.nodup, h.listed, ?_, ?_⟩
  · intro l mem
    rw [List.mem_singleton.1 mem]
    exact node
  · intro l node left waiting
    obtain ⟨above, below, split, -⟩ := h.waits l node left waiting
    simp at split

/-- Searches from several keys, one after the other. -/
theorem exists_searches (rises : g.Rises rank) {keys : List EntityKey} (s : Search)
    (nodes : ∀ k ∈ keys, k ∈ g.nodes) (h : g.Progress rank s.fresh s.finished []) :
    ∃ t, keys.foldlM (fun s k =>
        if k ∈ s.fresh then g.searchStack s.fresh s.finished [k] else .ok s) s = .ok t ∧
      g.Progress rank t.fresh t.finished [] := by
  induction keys generalizing s with
  | nil => exact ⟨s, rfl, h⟩
  | cons key rest ih =>
      have first : ∃ next, (if key ∈ s.fresh then g.searchStack s.fresh s.finished [key]
          else .ok s) = .ok next ∧ g.Progress rank next.fresh next.finished [] := by
        split
        · exact exists_searchStack rises _ _ _ (h.start (nodes key List.mem_cons_self))
        · exact ⟨s, rfl, h⟩
      obtain ⟨next, step, after⟩ := first
      obtain ⟨t, found, final⟩ := ih next (fun k mem => nodes k (List.mem_cons_of_mem _ mem)) after
      refine ⟨t, ?_, final⟩
      rw [List.foldlM_cons, step]
      exact found

/-- Where ranks rise all keys are listed before those that depend on them. -/
theorem exists_searchAll (rises : g.Rises rank) :
    ∃ s, g.searchAll = .ok s ∧ g.Listed s.finished := by
  have start : g.Progress rank g.nodes [] [] :=
    ⟨rises.nodup, trivial, by simp, fun k node left => absurd node left⟩
  obtain ⟨s, found, progress⟩ := exists_searches rises ⟨g.nodes, []⟩ (fun _ mem => mem) start
  exact ⟨s, found, progress.listed⟩

/-! ## The order -/

/-- A key that is listed stands before its dependents. -/
theorem Listed.mem_rest {l₁ l₂ : List EntityKey} {k d : EntityKey} (h : g.Listed (l₁ ++ k :: l₂))
    (dependent : d ∈ g.dependents k) : d ∈ l₂ := by
  induction l₁ with
  | nil => exact h.1 d dependent
  | cons x l₁ ih => exact ih h.2

/-- Where all keys are listed once, the dependencies of a key stand before it. -/
theorem Listed.mem_before {keys l₁ l₂ : List EntityKey} {k d : EntityKey} (rises : g.Rises rank)
    (nodup : keys.Nodup) (listed : g.Listed keys) (all : ∀ k ∈ g.nodes, k ∈ keys)
    (split : keys = l₁ ++ k :: l₂) (dependency : d ∈ g.dependencies k) : d ∈ l₁ := by
  have edge := mem_dependencies.1 dependency
  have mem := all d (rises.ends d k edge).1
  rw [split] at mem nodup listed
  rcases List.mem_append.1 mem with before | behind
  · exact before
  · exfalso
    rcases List.mem_cons.1 behind with rfl | behind
    · exact Nat.lt_irrefl _ (rises.lt d d edge)
    · -- the key would stand behind its own dependency
      obtain ⟨m₁, m₂, rest⟩ := List.append_of_mem behind
      rw [rest, ← List.cons_append, ← List.append_assoc] at listed
      have again := listed.mem_rest (mem_dependents.2 edge)
      rw [rest, List.nodup_append] at nodup
      have unique := (List.nodup_cons.1 nodup.2.1).1
      exact unique (List.mem_append_right _ (List.mem_cons_of_mem _ again))

/-- Keys whose ranks rise along dependencies are sorted. -/
theorem exists_sort (rises : g.Rises rank) : ∃ keys, g.sort = .ok keys := by
  obtain ⟨s, found, listed⟩ := exists_searchAll rises
  obtain ⟨nodup, all⟩ := searchAll_spec found
  have inPlace : g.misplaced? [] s.finished = none :=
    misplaced?_eq_none_iff.2 fun l₁ k l₂ split d mem =>
      .inr (.inr (listed.mem_before rises nodup (fun k node => (all k node).1) split mem))
  refine ⟨s.finished, Outcome.bind_eq_ok.2 ⟨s, found, ?_⟩⟩
  rw [inPlace]

/-- **Keys are sorted exactly where dependencies form no cycle.** -/
theorem exists_sort_iff (proper : g.Proper) : (∃ keys, g.sort = .ok keys) ↔ ¬ Cyclic g.edges := by
  constructor
  · rintro ⟨keys, sorted⟩
    exact (sorted_of_sort proper sorted).not_cyclic proper
  · intro acyclic
    obtain ⟨rank, rises⟩ := exists_rank acyclic
    exact exists_sort ⟨proper, rises⟩

end GridRecords.DependencyGraph
