/-
# What an extraction comes to

The branches of an extraction are walked apart and put together afterwards, where an entity is
left out if its key is held already.  What represents it was collected by some branch, and so is
covered as well: the extracted entities are closed under relations, key by key
(`extract_closure`).

A relation that leads to a second entity under a key that is held is not followed.  Where keys
tell apart what the root depends on, nothing is left out: all of it is extracted.
-/
import GridRecords.Proofs.Extraction.Collects
import GridRecords.Proofs.Extraction.Cycles

namespace GridRecords

open Collected

variable {root : Entity} {c d : Collected}

/-- A branch that was walked to its end. -/
structure Branch.Walked (b : Branch) (root : Entity) : Prop where
  start : b.start ∈ root.dependencies
  outcome : b.outcome = .ok ⟨⟩
  within : b.collected.Within root
  covers : ∀ e, e = b.start ∨ e ∈ b.collected.entities → b.collected.Covers e
  stems : ∀ e ∈ b.collected.entities, b.collected.Stems e b.start

/-- What was extracted, and the dependencies that were noted. -/
def Extraction.collected (x : Extraction) : Collected := ⟨x.entities, x.edges, []⟩

/-- An extraction that is put together from branches that were walked to their ends. -/
structure Extraction.Closed (x : Extraction) (branches : List Branch) : Prop where
  failures : x.failures = []
  within : x.collected.Within x.root
  covers : ∀ e, e = x.root ∨ e ∈ x.entities → x.collected.Covers e
  starts : branches.map Branch.start = x.root.dependencies
  walked : ∀ b ∈ branches, b.Walked x.root
  embeds : ∀ b ∈ branches, b.collected.Embeds x.collected
  origin : ∀ e ∈ x.entities, ∃ b ∈ branches, e = b.start ∨ e ∈ b.collected.entities

/-! ## Coming before -/

/-- An entity comes before another one along dependencies, in keys. -/
def Entity.Before (edges : List (EntityKey × EntityKey)) (e f : Entity) : Prop :=
  ∃ k l, e.key? = some k ∧ f.key? = some l ∧ Precedes edges k l

namespace Entity.Before

variable {edges more : List (EntityKey × EntityKey)} {e f g : Entity}

theorem of_notes (h : c.Notes e f) : e.Before c.edges f := by
  obtain ⟨k, l, keyE, keyF, edge⟩ := h
  exact ⟨k, l, keyE, keyF, .of_mem edge⟩

theorem trans (h : e.Before edges f) (h' : f.Before edges g) : e.Before edges g := by
  obtain ⟨k, l, keyE, keyF, before⟩ := h
  obtain ⟨l', m, keyF', keyG, before'⟩ := h'
  cases keyF.symm.trans keyF'
  exact ⟨k, m, keyE, keyG, before.trans before'⟩

theorem mono (h : e.Before edges f) (all : ∀ edge ∈ edges, edge ∈ more) : e.Before more f := by
  obtain ⟨k, l, keyE, keyF, before⟩ := h
  exact ⟨k, l, keyE, keyF, before.mono all⟩

/-- What comes before something with its own key is on a cycle. -/
theorem cyclic (h : e.Before edges f) (same : e.key? = f.key?) : Cyclic edges := by
  obtain ⟨k, l, keyE, keyF, before⟩ := h
  cases (keyE.symm.trans same).trans keyF
  exact ⟨k, before⟩

end Entity.Before

/-! ## Branches -/

theorem exists_branch {depth : Nat} {child : Entity} (dependency : child ∈ root.dependencies)
    (enough : child.rank < depth) :
    ∃ b, RelationAccess.domain.branch depth child = some b ∧ b.start = child ∧ b.Walked root := by
  unfold RelationAccess.branch
  by_cases kinds : child.kind.relationKinds = []
  · have follows : RelationAccess.domain.follows child.kind = false := by
      simp [RelationAccess.follows_eq, kinds]
    refine ⟨⟨child, .ok ⟨⟩, .empty⟩, by rw [follows]; rfl, rfl, dependency, rfl, within_empty root,
      ?_, fun e mem => absurd mem List.not_mem_nil⟩
    rintro e (rfl | mem)
    · exact covers_of_relationKinds kinds
    · exact absurd mem List.not_mem_nil
  · have follows : RelationAccess.domain.follows child.kind = true := by
      simp [RelationAccess.follows_eq, kinds]
    have reached : root.Reaches child := .step dependency (.refl child)
    obtain ⟨after, ⟨run, -, within, added⟩, covers⟩ :=
      RelationAccess.walk_collects depth reached kinds (within_empty root) enough
    have new {e : Entity} (mem : e ∈ after.entities) := (added e mem).resolve_left List.not_mem_nil
    refine ⟨⟨child, .ok ⟨⟩, after⟩, ?_, rfl, dependency, rfl, within, ?_, fun e mem => (new mem).2⟩
    · rw [follows, if_pos rfl]
      show (RelationAccess.domain.walk depth child empty).bind _ = _
      rw [run]
      rfl
    · rintro e (rfl | mem)
      · exact covers
      · exact (new mem).1

/-- One branch for each child. -/
theorem exists_branches {depth : Nat} (children : List Entity)
    (dependencies : ∀ x ∈ children, x ∈ root.dependencies)
    (enough : ∀ x ∈ children, x.rank < depth) :
    ∃ branches, children.mapM (RelationAccess.domain.branch depth) = some branches ∧
      branches.map Branch.start = children ∧ ∀ b ∈ branches, b.Walked root := by
  induction children with
  | nil => exact ⟨[], rfl, rfl, by simp⟩
  | cons child rest ih =>
      obtain ⟨b, found, start, walked⟩ := exists_branch
        (dependencies child List.mem_cons_self) (enough child List.mem_cons_self)
      obtain ⟨branches, found', starts, all⟩ :=
        ih (fun x mem => dependencies x (List.mem_cons_of_mem _ mem))
          fun x mem => enough x (List.mem_cons_of_mem _ mem)
      refine ⟨b :: branches, ?_, ?_, ?_⟩
      · rw [List.mapM_cons, found, found']
        rfl
      · rw [List.map_cons, start, starts]
      · intro b' mem
        rcases List.mem_cons.1 mem with rfl | mem
        · exact walked
        · exact all b' mem

/-! ## Putting branches together -/

/-- The starts of branches, with the dependencies of the root on them. -/
def Collected.ofStarts (root : Entity) (branches : List Branch) : Collected :=
  branches.foldl (fun c b => (c.connect b.start root).insert b.start) .empty

/-- A branch is added to what was collected unless it failed. -/
theorem Extraction.exists_add :
    ∃ add : Collected → Branch → Collected,
      (∀ c b, b.outcome = .ok ⟨⟩ → add c b = c.absorb b.collected) ∧
      (∀ c b f, b.outcome = .error f → add c b = c) ∧
      ∀ root branches,
        (ofBranches root branches).entities =
          (branches.foldl add (.ofStarts root branches)).entities ∧
        (ofBranches root branches).edges =
          (branches.foldl add (.ofStarts root branches)).edges := by
  refine ⟨_, fun c b ok => ?_, fun c b f error => ?_, fun root branches => ⟨rfl, rfl⟩⟩
  · simp only [ok]
  · simp only [error]

theorem Collected.gains_ofStarts {branches : List Branch}
    (identified : ∀ b ∈ branches, b.start.key? ≠ none) :
    Collected.empty.Gains (.ofStarts root branches) fun x => ∃ b ∈ branches, x = b.start := by
  refine gains_foldl (fun b mem c => ?_) .empty
  exact (gains_insert (c.connect b.start root) (identified b mem)).congr
    (entities_connect c b.start root).symm rfl

/-- Put together, branches give their starts and what those collected that did not fail. -/
theorem Extraction.gains_ofBranches {branches : List Branch}
    (starts : ∀ b ∈ branches, b.start.key? ≠ none)
    (identified : ∀ b ∈ branches, ∀ x ∈ b.collected.entities, x.key? ≠ none) :
    Collected.empty.Gains (ofBranches root branches).collected fun x =>
      (∃ b ∈ branches, x = b.start) ∨
        ∃ b ∈ branches, b.outcome = .ok ⟨⟩ ∧ x ∈ b.collected.entities := by
  obtain ⟨add, whole, failed, together⟩ := exists_add
  have each : ∀ b ∈ branches, ∀ c : Collected,
      c.Gains (add c b) fun x => b.outcome = .ok ⟨⟩ ∧ x ∈ b.collected.entities := by
    intro b mem c
    cases outcome : b.outcome with
    | ok _ =>
        rw [whole c b outcome]
        simpa using gains_absorb c (identified b mem)
    | error f =>
        rw [failed c b f outcome]
        simpa using Gains.refl c
  exact ((gains_ofStarts starts).trans (gains_foldl each _)).congr rfl (together root branches).1

theorem Extraction.mem_edges_ofBranches {branches : List Branch} {edge : EntityKey × EntityKey} :
    edge ∈ (ofBranches root branches).edges ↔
      (∃ b ∈ branches, b.start.key? = some edge.1 ∧ root.key? = some edge.2) ∨
        ∃ b ∈ branches, b.outcome = .ok ⟨⟩ ∧ edge ∈ b.collected.edges := by
  obtain ⟨add, whole, failed, together⟩ := exists_add
  have each : ∀ b ∈ branches, ∀ (c : Collected) edge, edge ∈ (add c b).edges ↔
      edge ∈ c.edges ∨ b.outcome = .ok ⟨⟩ ∧ edge ∈ b.collected.edges := by
    intro b mem c edge
    cases outcome : b.outcome with
    | ok _ =>
        rw [whole c b outcome, mem_edges_absorb]
        simp
    | error f =>
        rw [failed c b f outcome]
        simp
  have starts : edge ∈ (Collected.ofStarts root branches).edges ↔
      ∃ b ∈ branches, b.start.key? = some edge.1 ∧ root.key? = some edge.2 := by
    unfold Collected.ofStarts
    rw [mem_edges_foldl fun b mem c edge => by rw [edges_insert, mem_edges_connect]]
    simp [Collected.empty]
  rw [(together root branches).2, mem_edges_foldl each, starts]

/-- Branches that were walked to their ends come to a closed extraction. -/
theorem Extraction.closed_ofBranches (branches : List Branch)
    (starts : branches.map Branch.start = root.dependencies)
    (walked : ∀ b ∈ branches, b.Walked root) :
    (Extraction.ofBranches root branches).Closed branches := by
  have dependsStart {b : Branch} (mem : b ∈ branches) : root.DependsOn b.start :=
    .of_mem (walked b mem).start
  have gains := @gains_ofBranches root _ (fun b mem => (dependsStart mem).key?_ne_none)
    fun b mem x memX => ((walked b mem).within.entities x memX).key?_ne_none
  have origin : ∀ e ∈ (ofBranches root branches).entities,
      ∃ b ∈ branches, e = b.start ∨ e ∈ b.collected.entities := by
    intro e mem
    obtain none | ⟨b, memB, start⟩ | ⟨b, memB, -, found⟩ := gains.only e mem
    · exact absurd none List.not_mem_nil
    · exact ⟨b, memB, .inl start⟩
    · exact ⟨b, memB, .inr found⟩
  have embeds : ∀ b ∈ branches, b.collected.Embeds (ofBranches root branches).collected :=
    fun b mem => ⟨fun x memX => gains.represents x (.inr ⟨b, mem, (walked b mem).outcome, memX⟩),
      fun edge memEdge => mem_edges_ofBranches.2 (.inr ⟨b, mem, (walked b mem).outcome, memEdge⟩)⟩
  refine ⟨?_, ⟨?_, ?_, gains.keys List.nodup_nil⟩, ?_, starts, walked, embeds, origin⟩
  · show branches.filterMap _ = []
    rw [List.filterMap_eq_nil_iff]
    intro b mem
    rw [(walked b mem).outcome]
  · intro e mem
    obtain ⟨b, memB, rfl | found⟩ := origin e mem
    · exact dependsStart memB
    · exact (walked b memB).within.entities e found
  · intro edge mem
    obtain ⟨b, memB, keyB, keyRoot⟩ | ⟨b, memB, -, noted⟩ := mem_edges_ofBranches.1 mem
    · exact ⟨b.start, root, .refl root, (walked b memB).start, keyB, keyRoot⟩
    · exact (walked b memB).within.edges edge noted
  · rintro e (rfl | mem)
    · intro y dependency
      have start : y ∈ branches.map Branch.start := by rwa [starts]
      obtain ⟨b, mem, rfl⟩ := List.mem_map.1 start
      refine ⟨gains.represents b.start (.inl ⟨b, mem, rfl⟩), ?_⟩
      obtain ⟨k, keyB⟩ := Option.ne_none_iff_exists'.1
        (Entity.key?_ne_none_of_mem_dependencies dependency)
      obtain ⟨l, keyRoot⟩ := Option.ne_none_iff_exists'.1
        (Entity.key?_ne_none_of_dependency dependency)
      exact ⟨k, l, keyB, keyRoot, mem_edges_ofBranches.2 (.inl ⟨b, mem, keyB, keyRoot⟩)⟩
    · -- the branch that it comes from covers it
      obtain ⟨b, memB, of⟩ := origin e mem
      exact ((walked b memB).covers e of).embed (embeds b memB)

/-! ## What comes before the root -/

/-- What a branch collected comes before its start. -/
theorem Branch.Walked.before_start {b : Branch} (walked : b.Walked root) {e : Entity}
    (mem : e ∈ b.collected.entities) : e.Before b.collected.edges b.start := by
  obtain ⟨p, of, dependency⟩ := walked.stems e mem
  have noted := Entity.Before.of_notes (walked.covers p of e dependency).2
  rcases of with rfl | memP
  · exact noted
  · exact noted.trans (walked.before_start memP)
termination_by root.rank - e.rank
decreasing_by
  have := (walked.within.entities p memP).rank_lt
  have := Entity.rank_lt_of_mem_dependencies dependency
  omega

/-- **What was extracted comes before the root.** -/
theorem Extraction.Closed.before_root {x : Extraction} {branches : List Branch}
    (closed : x.Closed branches) {e : Entity} (mem : e ∈ x.entities) :
    e.Before x.edges x.root := by
  obtain ⟨b, memB, of⟩ := closed.origin e mem
  have walked := closed.walked b memB
  have start : b.start.Before x.edges x.root :=
    .of_notes (closed.covers x.root (.inl rfl) b.start walked.start).2
  rcases of with rfl | new
  · exact start
  · exact ((walked.before_start new).mono (closed.embeds b memB).edges).trans start

/-! ## The extraction -/

/-- An entity whose kind has relations is extracted from, and none of its branches fails. -/
theorem exists_extract (kinds : root.kind.relationKinds ≠ []) :
    ∃ x branches, root.extract = .ok x ∧ x.root = root ∧ x.Closed branches := by
  obtain ⟨branches, found, starts, walked⟩ := exists_branches root.dependencies
    (fun _ mem => mem) fun x mem => Entity.rank_lt_of_mem_dependencies mem
  refine ⟨.ofBranches root branches, branches, ?_, rfl,
    Extraction.closed_ofBranches branches starts walked⟩
  have within : RelationAccess.domain.extractWithin root.rank root =
      some (.ok (.ofBranches root branches)) := by
    simp only [RelationAccess.extractWithin, Entity.direct_domain kinds, found, Option.map_some]
  refine Option.some.inj ?_
  rw [← within]
  exact Option.some_get _

/-- An entity whose kind has no relations is refused. -/
theorem extract_of_relationKinds (kinds : root.kind.relationKinds = []) :
    root.extract =
      .error (.extractionConfiguration root.describe "the kind exposes no relations") := by
  have within : RelationAccess.domain.extractWithin root.rank root =
      some (.error (.extractionConfiguration root.describe "the kind exposes no relations")) := by
    simp only [RelationAccess.extractWithin, Entity.direct_of_relationKinds kinds]
  refine Option.some.inj ?_
  rw [← within]
  exact Option.some_get _

/-- What was extracted comes from a closed extraction. -/
theorem Extraction.closed_of_extract {x : Extraction} (h : root.extract = .ok x) :
    x.root = root ∧ ∃ branches, x.Closed branches := by
  by_cases kinds : root.kind.relationKinds = []
  · rw [extract_of_relationKinds kinds] at h
    cases h
  · obtain ⟨y, branches, extracted, same, closed⟩ := exists_extract kinds
    rw [extracted] at h
    cases h
    exact ⟨same, branches, closed⟩

/-- Where keys tell apart what the root depends on, all of it was extracted. -/
theorem Extraction.Closed.mem_iff {x : Extraction} {branches : List Branch}
    (closed : x.Closed branches)
    (same : ∀ y z, x.root.DependsOn y → x.root.DependsOn z → y.key? = z.key? → y = z) {e : Entity} :
    e ∈ x.entities ↔ x.root.DependsOn e := by
  refine ⟨closed.within.entities e, ?_⟩
  rintro ⟨child, dependency, reached⟩
  have held {y z : Entity} (of : y = x.root ∨ y ∈ x.entities) (dependency : z ∈ y.dependencies)
      (depends : x.root.DependsOn z) : z ∈ x.entities := by
    obtain ⟨w, mem, key⟩ := (closed.covers y of z dependency).1
    rwa [← same w z (closed.within.entities w mem) depends key]
  refine reached.mem_of_closed ?_ (held (.inl rfl) dependency (.of_mem dependency))
  intro y mem z dependency
  exact held (.inr mem) dependency ((closed.within.entities y mem).reaches.dependsOn dependency)

/-- **An extraction is the closure of its root under relations.**  It is refused if the kind of the
root has no relations.  Else no branch fails, all that is extracted has a key of its own and is
what the root depends on, and each dependency of the root and of what is extracted is represented
under its key. -/
theorem extract_closure (root : Entity) :
    (root.kind.relationKinds = [] → root.extract =
      .error (.extractionConfiguration root.describe "the kind exposes no relations")) ∧
    (root.kind.relationKinds ≠ [] → ∃ x, root.extract = .ok x ∧ x.root = root ∧ x.failures = [] ∧
      (x.entities.map Entity.key?).Nodup ∧
      (∀ e ∈ x.entities, e.key? ≠ none ∧ root.DependsOn e) ∧
      (∀ e, e = root ∨ e ∈ x.entities → ∀ y ∈ e.dependencies, ∃ z ∈ x.entities, z.key? = y.key?) ∧
      ((∀ y z, root.DependsOn y → root.DependsOn z → y.key? = z.key? → y = z) →
        ∀ e, e ∈ x.entities ↔ root.DependsOn e)) := by
  refine ⟨extract_of_relationKinds, fun kinds => ?_⟩
  obtain ⟨x, branches, extracted, rfl, closed⟩ := exists_extract kinds
  refine ⟨x, extracted, rfl, closed.failures, closed.within.keys, ?_, ?_, ?_⟩
  · intro e mem
    have depends := closed.within.entities e mem
    exact ⟨depends.key?_ne_none, depends⟩
  · exact fun e of y dependency => (closed.covers e of y dependency).1
  · exact fun same e => closed.mem_iff same

/-- A manager that is told apart by a number. -/
def managerUnit (n : Nat) : ManagerUnit :=
  ⟨⟨⟨BitVec.ofNat 128 n⟩, "manager", .unassigned, .unlimited⟩, "self optimization"⟩

/-- A manager under others, its parent first. -/
def managerOf (n : Nat) (above : List Nat) : EnergyManager :=
  { managerUnit n with ancestors := above.map managerUnit }

/-- A manager under two others, with these. -/
def lineage : List Entity :=
  [.energyManager (managerOf 1 [2, 3]), .energyManager (managerOf 2 [3]),
    .energyManager (managerOf 3 [])]

theorem coherent_managerOf : (Entity.energyManager (managerOf 1 [2, 3])).Coherent := by
  have first : (Entity.energyManager (managerOf 1 [2, 3])).dependencies =
      [.energyManager (managerOf 2 [3])] := rfl
  have second : (Entity.energyManager (managerOf 2 [3])).dependencies =
      [.energyManager (managerOf 3 [])] := rfl
  have third : (Entity.energyManager (managerOf 3 [])).dependencies = [] := rfl
  have closed : ∀ e ∈ lineage, ∀ x ∈ e.dependencies, x ∈ lineage := by
    simp [lineage, first, second, third]
  have only {e : Entity} (h : (Entity.energyManager (managerOf 1 [2, 3])).Reaches e) :
      e = .energyManager (managerOf 1 [2, 3]) ∨ e = .energyManager (managerOf 2 [3]) ∨
        e = .energyManager (managerOf 3 []) := by
    simpa [lineage] using h.mem_of_closed closed List.mem_cons_self
  constructor
  · intro x y hx hy same
    rcases only hx with rfl | rfl | rfl <;> rcases only hy with rfl | rfl | rfl <;>
      first | exact fun _ => rfl | exact absurd same (by decide)
  · intro x y hx hy other
    rcases only hx with rfl | rfl | rfl <;> rcases only hy with rfl | rfl | rfl <;>
      first | exact absurd rfl other | decide

/-- Of a manager under two others, these two are extracted. -/
theorem extract_closure_managerOf :
    ∃ x, (Entity.energyManager (managerOf 1 [2, 3])).extract = .ok x ∧ x.failures = [] ∧
      ∀ e, e ∈ x.entities ↔ (Entity.energyManager (managerOf 1 [2, 3])).DependsOn e := by
  obtain ⟨x, extracted, -, failures, -, -, -, all⟩ :=
    (extract_closure (.energyManager (managerOf 1 [2, 3]))).2 (by decide)
  refine ⟨x, extracted, failures, all fun y z hy hz same => ?_⟩
  exact coherent_managerOf.same y z hy.reaches hz.reaches same hy.key?_ne_none

end GridRecords
