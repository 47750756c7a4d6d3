/-
# Branches of an extraction

Each entity that is found directly starts a branch, and branches are walked apart.  Where keys tell
apart what is found, a branch fails exactly when it reaches something whose relations cannot be
read (`Branch.Ended.breaks_iff`), and otherwise collects all that its start leads to.

So an extraction lists the branches that break, in order, and gathers the starts of all of them
with what the others lead to (`extract_branches`).  What a branch contributes depends on what it
reaches and on nothing else: not on the root, not on its siblings.
-/
import GridRecords.Proofs.Extraction.Closure
import GridRecords.Proofs.Extraction.Walk
import GridRecords.Proofs.Outcome
import Mathlib.Data.Set.Finite.Basic

namespace GridRecords

variable {a b : RelationAccess} {root child e x y : Entity} {c d : Collected} {f : Failure}
  {P : Entity → Prop}

/-! ## Entities told apart -/

/-- Entities that have keys, and are the same when their keys are equal. -/
structure ToldApart (P : Entity → Prop) : Prop where
  identified : ∀ x, P x → x.key? ≠ none
  same : ∀ x y, P x → P y → x.key? = y.key? → x = y

/-- What was added is there. -/
theorem Collected.Gains.mem_iff {adds : Entity → Prop} (gains : c.Gains d adds)
    (told : ToldApart P) (before : ∀ x ∈ c.entities, P x) (added : ∀ x, adds x → P x) :
    x ∈ d.entities ↔ x ∈ c.entities ∨ adds x := by
  refine ⟨gains.only x, ?_⟩
  rintro (old | new)
  · exact gains.more x old
  · obtain ⟨y, mem, key⟩ := gains.represents x new
    have hy : P y := (gains.only y mem).elim (before y) (added y)
    cases told.same y x hy (added x new) key
    exact mem

/-! ## What is found from a root -/

namespace RelationAccess

/-- An entity is found from a root: directly, or from there on. -/
def Finds (a : RelationAccess) (root x : Entity) : Prop :=
  ∃ child ∈ a.related root, a.Reaches child x

/-- What is found from a root is told apart by its keys, and has finitely many of them. -/
structure Regular (a : RelationAccess) (root : Entity) : Prop extends
    ToldApart (a.Finds root) where
  finite : {k | ∃ x, a.Finds root x ∧ x.key? = some k}.Finite

/-- A branch breaks as it reaches an entity whose relations cannot be read. -/
def Breaks (a : RelationAccess) (child : Entity) : Prop :=
  ∃ y f, a.Reaches child y ∧ a.FailsAt y f

open Classical in
/-- The entities whose branches break, in order. -/
noncomputable def broken (a : RelationAccess) (children : List Entity) : List Entity :=
  children.filter fun child => a.Breaks child

/-- A branch contributes its start, and all that this leads to unless it breaks. -/
def Contributes (a : RelationAccess) (child e : Entity) : Prop :=
  e = child ∨ ¬ a.Breaks child ∧ a.Reaches child e

/-- What extracting from a root comes to, once relations are followed deep enough. -/
def Extracts (a : RelationAccess) (root : Entity) (outcome : Except Failure Extraction) : Prop :=
  ∃ bound, ∀ depth, bound ≤ depth → a.extractWithin depth root = some outcome

theorem DependsOn.reaches (h : a.DependsOn e x) : a.Reaches e x := h.to_reflTransGen

theorem Finds.tail (h : a.Finds root x) (further : a.Reaches x y) : a.Finds root y := by
  obtain ⟨child, mem, reached⟩ := h
  exact ⟨child, mem, reached.trans further⟩

theorem AgreesFrom.breaks_iff (agrees : a.AgreesFrom b child) :
    b.Breaks child ↔ a.Breaks child := by
  unfold Breaks
  refine exists_congr fun y => exists_congr fun f => ?_
  rw [agrees.reaches_iff]
  exact and_congr_right fun reached => agrees.failsAt_iff reached

theorem AgreesFrom.contributes_iff (agrees : a.AgreesFrom b child) :
    b.Contributes child e ↔ a.Contributes child e := by
  unfold Contributes
  rw [agrees.breaks_iff, agrees.reaches_iff]

/-! ## One branch -/

/-- Nothing that an entity without relations to follow leads to can fail. -/
theorem not_breaks (none : ¬ a.follows child.kind = true) : ¬ a.Breaks child := by
  rintro ⟨y, f, reached, fails⟩
  rcases reached.cases_head with rfl | ⟨x, leads, -⟩
  · exact none fails.1
  · exact none leads.1

/-- What an entity that was read leads to was collected. -/
theorem mem_of_hasRead (told : ToldApart (a.Finds root)) (found : a.Finds root x)
    (only : ∀ y ∈ c.entities, a.Finds root y) (read : a.HasRead c x) (leads : a.Leads x y) :
    y ∈ c.entities := by
  obtain ⟨children, direct, met⟩ := read leads.1
  have mem : y ∈ children := by
    rw [eq_related_of_direct direct]
    exact leads.2
  rcases (met y mem).1 with held | held
  · exact held
  · have foundY := found.tail (.single leads)
    obtain ⟨z, memZ, key⟩ := (Collected.holds_iff (told.identified y foundY)).1 held
    cases told.same z y (only z memZ) foundY key
    exact memZ

end RelationAccess

/-- How a branch ends.  It fails as something that it reaches does, or has collected all that its
start leads to, none of which fails. -/
structure Branch.Ended (b : Branch) (a : RelationAccess) : Prop where
  failed : ∀ f, b.outcome = .error f → ∃ y, a.Reaches b.start y ∧ a.FailsAt y f
  sound : b.outcome = .ok ⟨⟩ → ¬ a.Breaks b.start
  only : ∀ x ∈ b.collected.entities, a.DependsOn b.start x
  all : b.outcome = .ok ⟨⟩ → ∀ x, a.DependsOn b.start x → x ∈ b.collected.entities

/-- **A branch fails exactly when it breaks.** -/
theorem Branch.Ended.breaks_iff {b : Branch} (ended : b.Ended a) :
    a.Breaks b.start ↔ ∃ f, b.outcome = .error f := by
  constructor
  · intro breaks
    cases outcome : b.outcome with
    | error f => exact ⟨f, rfl⟩
    | ok _ => exact absurd breaks (ended.sound outcome)
  · rintro ⟨f, error⟩
    obtain ⟨y, reached, fails⟩ := ended.failed f error
    exact ⟨y, f, reached, fails⟩

namespace RelationAccess

/-- Where keys tell apart what is found, a walk from a child ends its branch. -/
theorem ended_of_walk (told : ToldApart (a.Finds root)) (found : a.Finds root child)
    (followed : a.follows child.kind = true) {depth : Nat} {outcome : Except Failure PUnit}
    {after : Collected} (h : a.walk depth child .empty = some (outcome, after)) :
    (Branch.mk child outcome after).Ended a := by
  obtain ⟨walked, start⟩ := walked_of_walk followed h
  have only : ∀ x ∈ after.entities, a.DependsOn child x := fun x mem =>
    (walked.found x mem).resolve_left List.not_mem_nil
  have foundAll : ∀ x ∈ after.entities, a.Finds root x := fun x mem =>
    found.tail (only x mem).reaches
  -- all that is reached was read, by induction along what leads there
  have hasRead (ok : outcome = .ok ⟨⟩) {y : Entity} (reached : a.Reaches child y) :
      a.HasRead after y := by
    induction reached with
    | refl => exact start ok
    | tail before leads ih =>
      have mem := mem_of_hasRead told (found.tail before) foundAll ih leads
      exact (walked.read ok _ mem).resolve_left List.not_mem_nil
  refine ⟨walked.failed, ?_, only, ?_⟩
  · rintro ok ⟨y, f, reached, fails⟩
    obtain ⟨children, direct, -⟩ := hasRead ok reached fails.1
    cases direct.symm.trans fails.2
  · intro ok x depends
    obtain ⟨y, reached, leads⟩ := Relation.TransGen.tail'_iff.1 depends
    exact mem_of_hasRead told (found.tail reached) foundAll (hasRead ok reached) leads

/-- A branch that ended is the same with more depth. -/
theorem branch_mono {depth depth' : Nat} (more : depth ≤ depth') {b : Branch}
    (h : a.branch depth child = some b) : a.branch depth' child = some b := by
  unfold branch at h ⊢
  by_cases followed : a.follows child.kind = true
  · rw [if_pos followed] at h ⊢
    obtain ⟨r, run, rest⟩ := Option.bind_eq_some_iff.1 h
    exact Option.bind_eq_some_iff.2 ⟨r, walk_mono more run, rest⟩
  · rwa [if_neg followed] at h ⊢

/-- What a branch does not reach does not change it. -/
theorem branch_congr (agrees : a.AgreesFrom b child) (depth : Nat) :
    b.branch depth child = a.branch depth child := by
  unfold branch
  rw [agrees.follows .refl]
  by_cases followed : a.follows child.kind = true
  · rw [walk_congr agrees followed]
  · rw [if_neg followed, if_neg followed]

/-- A branch that ended walked from its start, or had nothing to follow. -/
theorem branch_cases {depth : Nat} {b : Branch} (h : a.branch depth child = some b) :
    b.start = child ∧
      (a.follows child.kind = true ∧ a.walk depth child .empty = some (b.outcome, b.collected) ∨
        ¬ a.follows child.kind = true ∧ b.outcome = .ok ⟨⟩ ∧ b.collected = .empty) := by
  unfold branch at h
  by_cases followed : a.follows child.kind = true
  · rw [if_pos followed] at h
    obtain ⟨⟨outcome, after⟩, run, rest⟩ := Option.bind_eq_some_iff.1 h
    cases rest
    exact ⟨rfl, .inl ⟨followed, run⟩⟩
  · rw [if_neg followed] at h
    cases h
    exact ⟨rfl, .inr ⟨followed, rfl, rfl⟩⟩

/-- **A branch ends if its depth exceeds the number of identities that its start leads to.** -/
theorem branch_ends {identities : Finset EntityKey} {depth : Nat}
    (known : ∀ x, a.DependsOn child x → ∃ k ∈ identities, x.key? = some k)
    (enough : identities.card < depth) : ∃ b, a.branch depth child = some b := by
  unfold branch
  by_cases followed : a.follows child.kind = true
  · have bound : missing identities .empty < depth :=
      Nat.lt_of_le_of_lt (Finset.card_filter_le _ _) enough
    obtain ⟨⟨outcome, after⟩, run⟩ :=
      Option.ne_none_iff_exists'.1 (walk_ends followed known bound)
    refine ⟨⟨child, outcome, after⟩, ?_⟩
    rw [if_pos followed, run]
    rfl
  · exact ⟨⟨child, .ok ⟨⟩, .empty⟩, if_neg followed⟩

/-- What is found from there on has one of the identities that are found from a root. -/
theorem known_of_finds (identified : ∀ x, a.Finds root x → x.key? ≠ none)
    (finite : {k | ∃ x, a.Finds root x ∧ x.key? = some k}.Finite) (found : a.Finds root child)
    (depends : a.DependsOn child x) : ∃ k ∈ finite.toFinset, x.key? = some k := by
  have foundX := found.tail depends.reaches
  obtain ⟨k, key⟩ := Option.ne_none_iff_exists'.1 (identified x foundX)
  exact ⟨k, finite.mem_toFinset.2 ⟨x, foundX, key⟩, key⟩

/-- Where keys tell apart what is found, a branch ends as it should. -/
theorem ended_of_branch (told : ToldApart (a.Finds root)) (found : a.Finds root child)
    {depth : Nat} {b : Branch} (h : a.branch depth child = some b) : b.Ended a := by
  obtain ⟨start, outcome, collected⟩ := b
  obtain ⟨rfl, ⟨followed, run⟩ | ⟨none, rfl, rfl⟩⟩ := branch_cases h
  · exact ended_of_walk told found followed run
  · refine ⟨nofun, fun _ => not_breaks none, fun x mem => absurd mem List.not_mem_nil, ?_⟩
    intro _ x depends
    obtain ⟨y, leads, -⟩ := Relation.TransGen.head'_iff.1 depends
    exact absurd leads.1 none

/-- **Every branch ends.** -/
theorem Regular.exists_branch (regular : a.Regular root) (mem : child ∈ a.related root)
    {depth : Nat} (enough : regular.finite.toFinset.card < depth) :
    ∃ b, a.branch depth child = some b ∧ b.start = child ∧ b.Ended a := by
  have found : a.Finds root child := ⟨child, mem, .refl⟩
  obtain ⟨b, run⟩ := branch_ends
    (fun x depends => known_of_finds regular.identified regular.finite found depends) enough
  exact ⟨b, run, (branch_cases run).1, ended_of_branch regular.toToldApart found run⟩

end RelationAccess

/-! ## Branches put together -/

theorem FailedBranch.mem_ofBranches {branches : List Branch} {failed : FailedBranch} :
    failed ∈ (Extraction.ofBranches root branches).failures ↔
      ∃ b ∈ branches, b.start = failed.entity ∧ b.outcome = .error failed.failure := by
  show failed ∈ branches.filterMap _ ↔ _
  rw [List.mem_filterMap]
  refine exists_congr fun b => and_congr_right fun _ => ?_
  cases outcome : b.outcome with
  | error f => cases failed; simp
  | ok _ => simp

/-- The branches that fail are those that break, in order. -/
theorem Extraction.failures_ofBranches (branches : List Branch)
    (ended : ∀ b ∈ branches, b.Ended a) :
    (Extraction.ofBranches root branches).failures.map FailedBranch.entity =
      a.broken (branches.map Branch.start) := by
  classical
  show (branches.filterMap _).map _ = _
  unfold RelationAccess.broken
  rw [List.map_filterMap, List.filter_map, ← List.filterMap_eq_filter, List.map_filterMap]
  refine List.filterMap_congr fun b mem => ?_
  have breaks := (ended b mem).breaks_iff
  cases outcome : b.outcome with
  | error f =>
    have broken : a.Breaks b.start := breaks.2 ⟨f, outcome⟩
    simp [Option.guard, broken]
  | ok _ =>
    have whole : ¬ a.Breaks b.start := (ended b mem).sound outcome
    simp [Option.guard, whole]

/-- What was extracted comes branch by branch: the failures are those that break, in order, each
for a cause that it reaches; the entities, each once, are what the branches contribute. -/
structure Extraction.Gathers (x : Extraction) (a : RelationAccess) (children : List Entity) :
    Prop where
  failures : x.failures.map FailedBranch.entity = a.broken children
  causes : ∀ b ∈ x.failures, ∃ y, a.Reaches b.entity y ∧ a.FailsAt y b.failure
  keys : (x.entities.map Entity.key?).Nodup
  entities : ∀ e, e ∈ x.entities ↔ ∃ child ∈ children, a.Contributes child e

theorem Branch.Ended.contributes_iff {b : Branch} (ended : b.Ended a) :
    a.Contributes b.start e ↔ e = b.start ∨ b.outcome = .ok ⟨⟩ ∧ e ∈ b.collected.entities := by
  unfold RelationAccess.Contributes
  constructor
  · rintro (start | ⟨whole, reached⟩)
    · exact .inl start
    · rcases Relation.reflTransGen_iff_eq_or_transGen.1 reached with start | depends
      · exact .inl start
      · have ok : b.outcome = .ok ⟨⟩ := by
          cases outcome : b.outcome with
          | error f => exact absurd (ended.breaks_iff.2 ⟨f, outcome⟩) whole
          | ok _ => rfl
        exact .inr ⟨ok, ended.all ok e depends⟩
  · rintro (start | ⟨ok, mem⟩)
    · exact .inl start
    · exact .inr ⟨ended.sound ok, (ended.only e mem).reaches⟩

/-- Branches that ended are gathered. -/
theorem Extraction.gathers_ofBranches (told : ToldApart (a.Finds root)) (branches : List Branch)
    (found : ∀ b ∈ branches, a.Finds root b.start) (ended : ∀ b ∈ branches, b.Ended a) :
    (Extraction.ofBranches root branches).Gathers a (branches.map Branch.start) := by
  have foundIn : ∀ b ∈ branches, ∀ x ∈ b.collected.entities, a.Finds root x :=
    fun b mem x memX => (found b mem).tail ((ended b mem).only x memX).reaches
  have gains := @Extraction.gains_ofBranches root _
    (fun b mem => told.identified b.start (found b mem))
    fun b mem x memX => told.identified x (foundIn b mem x memX)
  refine ⟨failures_ofBranches branches ended, ?_, gains.keys List.nodup_nil, fun e => ?_⟩
  · intro failed mem
    obtain ⟨b, memB, start, error⟩ := FailedBranch.mem_ofBranches.1 mem
    rw [← start]
    exact (ended b memB).failed failed.failure error
  · refine (gains.mem_iff told (fun x none => absurd none List.not_mem_nil) ?_).trans ?_
    · rintro x (⟨b, mem, rfl⟩ | ⟨b, mem, -, memX⟩)
      · exact found b mem
      · exact foundIn b mem x memX
    constructor
    · rintro (none | ⟨b, mem, start⟩ | ⟨b, mem, whole⟩)
      · exact absurd none List.not_mem_nil
      · exact ⟨b.start, List.mem_map_of_mem mem, .inl start⟩
      · exact ⟨b.start, List.mem_map_of_mem mem, (ended b mem).contributes_iff.2 (.inr whole)⟩
    · rintro ⟨start, mem, contributes⟩
      obtain ⟨b, memB, rfl⟩ := List.mem_map.1 mem
      rcases (ended b memB).contributes_iff.1 contributes with same | whole
      · exact .inr (.inl ⟨b, memB, same⟩)
      · exact .inr (.inr ⟨b, memB, whole⟩)

/-! ## The extraction -/

namespace RelationAccess

theorem extractWithin_mono {depth depth' : Nat} (more : depth ≤ depth')
    {outcome : Except Failure Extraction} (h : a.extractWithin depth root = some outcome) :
    a.extractWithin depth' root = some outcome := by
  unfold extractWithin at h ⊢
  cases direct : a.direct root with
  | error f => rwa [direct] at h
  | ok children =>
    rw [direct] at h
    obtain ⟨branches, ended, rfl⟩ := Option.map_eq_some_iff.1 h
    exact Option.map_eq_some_iff.2
      ⟨branches, Outcome.mapM_mono (fun child _ b => branch_mono more) ended, rfl⟩

theorem extracts_extract (descends : a.Descends) (root : Entity) :
    a.Extracts root (a.extract descends root) :=
  ⟨root.rank, fun _ more => extractWithin_mono more (Option.some_get _).symm⟩

theorem Extracts.unique {outcome outcome' : Except Failure Extraction}
    (h : a.Extracts root outcome) (h' : a.Extracts root outcome') : outcome = outcome' := by
  obtain ⟨bound, all⟩ := h
  obtain ⟨bound', all'⟩ := h'
  exact Option.some.inj ((all (max bound bound') (Nat.le_max_left _ _)).symm.trans
    (all' (max bound bound') (Nat.le_max_right _ _)))

/-- The branches of an extraction: each child has one that ended. -/
structure HasBranches (a : RelationAccess) (children : List Entity) (branchOf : Entity → Branch)
    (bound : Nat) : Prop where
  run : ∀ depth, bound ≤ depth → ∀ child ∈ children, a.branch depth child = some (branchOf child)
  start : ∀ child ∈ children, (branchOf child).start = child
  ended : ∀ child ∈ children, (branchOf child).Ended a

theorem Regular.hasBranches (regular : a.Regular root) {children : List Entity}
    (direct : a.direct root = .ok children) :
    ∃ branchOf bound, a.HasBranches children branchOf bound := by
  have each (child : Entity) : ∃ b, child ∈ children →
      a.branch (regular.finite.toFinset.card + 1) child = some b ∧ b.start = child ∧
        b.Ended a := by
    by_cases mem : child ∈ children
    · rw [eq_related_of_direct direct] at mem
      obtain ⟨b, ends⟩ := regular.exists_branch mem (Nat.lt_succ_self _)
      exact ⟨b, fun _ => ends⟩
    · exact ⟨⟨child, .ok ⟨⟩, .empty⟩, fun mem' => absurd mem' mem⟩
  choose branchOf ends using each
  exact ⟨branchOf, _, fun depth more child mem => branch_mono more (ends child mem).1,
    fun child mem => (ends child mem).2.1, fun child mem => (ends child mem).2.2⟩

/-- The branches are put together. -/
theorem HasBranches.extracts {children : List Entity} {branchOf : Entity → Branch} {bound : Nat}
    (has : a.HasBranches children branchOf bound) (direct : a.direct root = .ok children) :
    a.Extracts root (.ok (.ofBranches root (children.map branchOf))) := by
  refine ⟨bound, fun depth more => ?_⟩
  have found : children.mapM (a.branch depth) = some (children.map branchOf) :=
    Outcome.mapM_eq_pure (has.run depth more)
  simp only [extractWithin, direct, found, Option.map_some]

theorem HasBranches.gathers {children : List Entity} {branchOf : Entity → Branch} {bound : Nat}
    (has : a.HasBranches children branchOf bound) (regular : a.Regular root)
    (direct : a.direct root = .ok children) :
    (Extraction.ofBranches root (children.map branchOf)).Gathers a children := by
  have starts : (children.map branchOf).map Branch.start = children := by
    rw [List.map_map]
    exact (List.map_congr_left has.start).trans (List.map_id children)
  have found : ∀ b ∈ children.map branchOf, a.Finds root b.start := by
    intro b mem
    obtain ⟨child, memChild, rfl⟩ := List.mem_map.1 mem
    rw [has.start child memChild]
    rw [eq_related_of_direct direct] at memChild
    exact ⟨child, memChild, .refl⟩
  have ended : ∀ b ∈ children.map branchOf, b.Ended a := by
    intro b mem
    obtain ⟨child, memChild, rfl⟩ := List.mem_map.1 mem
    exact has.ended child memChild
  have gathers := Extraction.gathers_ofBranches regular.toToldApart _ found ended
  rwa [starts] at gathers

theorem HasBranches.mem_failures {children : List Entity} {branchOf : Entity → Branch}
    {bound : Nat} (has : a.HasBranches children branchOf bound) (mem : child ∈ children) :
    ⟨child, f⟩ ∈ (Extraction.ofBranches root (children.map branchOf)).failures ↔
      (branchOf child).outcome = .error f := by
  rw [FailedBranch.mem_ofBranches]
  constructor
  · rintro ⟨b, memB, start, error⟩
    obtain ⟨other, memOther, rfl⟩ := List.mem_map.1 memB
    cases (has.start other memOther).symm.trans start
    exact error
  · intro error
    exact ⟨branchOf child, List.mem_map_of_mem mem, has.start child mem, error⟩

/-- A branch that two extractions share is the same where the accesses agree on what it reaches. -/
theorem HasBranches.eq_of_agreesFrom {children others : List Entity}
    {branchOf branchOf' : Entity → Branch} {bound bound' : Nat}
    (has : a.HasBranches children branchOf bound) (has' : b.HasBranches others branchOf' bound')
    (mem : child ∈ children) (mem' : child ∈ others) (agrees : a.AgreesFrom b child) :
    branchOf' child = branchOf child := by
  have run := has.run (max bound bound') (Nat.le_max_left _ _) child mem
  have run' := has'.run (max bound bound') (Nat.le_max_right _ _) child mem'
  rw [branch_congr agrees, run] at run'
  exact (Option.some.inj run').symm

/-- **Branch failures are isolated.**  Where keys tell apart what is found from a root, and finitely
much is found, extracting fails exactly as finding directly does.  Else the failures are the
branches that break, in order, and the entities are what the branches contribute: the starts of
all of them, and all that those lead to that do not break.  Another extraction, from any root by
any access that agrees on what a branch reaches, has the same failure of this branch, or none
either, and the branch contributes the same to it. -/
theorem extract_branches (regular : a.Regular root) :
    ∃ outcome, a.Extracts root outcome ∧
      (∀ descends : a.Descends, a.extract descends root = outcome) ∧
      (∀ f, outcome = .error f ↔ a.direct root = .error f) ∧
      ∀ x, outcome = .ok x → ∃ children, a.direct root = .ok children ∧ x.root = root ∧
        x.Gathers a children ∧
        ∀ (b : RelationAccess) (other : Entity) (others : List Entity) (y : Extraction),
          b.Regular other → b.direct other = .ok others → b.Extracts other (.ok y) →
          ∀ child ∈ children, child ∈ others → a.AgreesFrom b child →
            (∀ f, ⟨child, f⟩ ∈ y.failures ↔ ⟨child, f⟩ ∈ x.failures) ∧
            ∀ e, b.Contributes child e ↔ a.Contributes child e := by
  cases direct : a.direct root with
  | error f =>
    have extracts : a.Extracts root (.error f) := by
      refine ⟨0, fun depth _ => ?_⟩
      unfold extractWithin
      rw [direct]
    refine ⟨.error f, extracts, fun descends => (extracts_extract descends root).unique extracts,
      fun g => ?_, fun x ok => by cases ok⟩
    constructor <;> (intro error; cases error; rfl)
  | ok children =>
    obtain ⟨branchOf, bound, has⟩ := regular.hasBranches direct
    have extracts := has.extracts direct
    refine ⟨_, extracts, fun descends => (extracts_extract descends root).unique extracts,
      fun g => ?_, ?_⟩
    · constructor <;> (intro error; cases error)
    rintro x ok
    cases ok
    refine ⟨children, rfl, rfl, has.gathers regular direct, ?_⟩
    intro b other others y regular' direct' extracts' child mem mem' agrees
    obtain ⟨branchOf', bound', has'⟩ := regular'.hasBranches direct'
    cases extracts'.unique (has'.extracts direct')
    refine ⟨fun f => ?_, fun e => agrees.contributes_iff⟩
    rw [has'.mem_failures mem', has.mem_failures mem, has.eq_of_agreesFrom has' mem mem' agrees]

/-! ### Branches that meet -/

/-- What is reached stays within entities that hold what their relations yield. -/
theorem Reaches.mem_of_closed {es : List Entity} (closed : ∀ e ∈ es, ∀ x ∈ a.related e, x ∈ es)
    (h : a.Reaches e x) (start : e ∈ es) : x ∈ es := by
  induction h with
  | refl => exact start
  | tail _ leads ih => exact closed _ ih _ leads.2

/-- An access is regular if all that is found is in a list of entities with keys of their own. -/
theorem regular_of_closed {es : List Entity} (start : ∀ x ∈ a.related root, x ∈ es)
    (closed : ∀ e ∈ es, ∀ x ∈ a.related e, x ∈ es) (identified : ∀ x ∈ es, x.key? ≠ none)
    (keys : (es.map Entity.key?).Nodup) : a.Regular root := by
  have found : ∀ x, a.Finds root x → x ∈ es := by
    rintro x ⟨child, mem, reached⟩
    exact reached.mem_of_closed closed (start child mem)
  refine ⟨⟨fun x hx => identified x (found x hx), fun x y hx hy key => ?_⟩, ?_⟩
  · exact List.inj_on_of_nodup_map keys (found x hx) (found y hy) key
  · refine (List.finite_toSet (es.filterMap Entity.key?)).subset ?_
    rintro k ⟨x, hx, key⟩
    exact List.mem_filterMap.2 ⟨x, found x hx, key⟩

/-- A manager that is told apart by a number. -/
def numbered (n : Nat) : Entity := .energyManager (managerOf n [])

/-- The numbers that a number leads to.  Those of the fourth cannot be read. -/
def crossings : Nat → Except Failure (List Nat)
  | 0 => .ok [1, 2, 3]
  | 1 => .ok [5, 4]
  | 2 => .ok [2, 5]
  | 4 => .error (.validation "cannot read")
  | 5 => .ok [2]
  | _ => .ok []

/-- Managers lead to others as their numbers do. -/
def crossing : RelationAccess where
  kinds _ := [.energyManager]
  read
    | .energyManager m =>
      (crossings m.uuid.bits.toNat).map fun ns => [⟨.energyManager, ns.map numbered⟩]
    | _ => .ok []

theorem related_crossing :
    crossing.related (numbered 1) = [numbered 5, numbered 4] ∧
      crossing.related (numbered 2) = [numbered 2, numbered 5] ∧
      crossing.related (numbered 3) = [] ∧ crossing.related (numbered 4) = [] ∧
      crossing.related (numbered 5) = [numbered 2] := ⟨rfl, rfl, rfl, rfl, rfl⟩

theorem direct_crossing :
    crossing.direct (numbered 0) = .ok [numbered 1, numbered 2, numbered 3] := rfl

theorem regular_crossing : crossing.Regular (numbered 0) := by
  obtain ⟨first, second, third, fourth, fifth⟩ := related_crossing
  refine @regular_of_closed _ _ ([1, 2, 3, 4, 5].map numbered) ?_ ?_ ?_ (by decide)
  · rw [← eq_related_of_direct direct_crossing]
    simp
  · simp [first, second, third, fourth, fifth]
  · intro x mem
    obtain ⟨n, -, rfl⟩ := List.mem_map.1 mem
    exact Option.some_ne_none _

theorem breaks_crossing : crossing.Breaks (numbered 1) := by
  refine ⟨numbered 4, .validation "cannot read", .single ⟨rfl, ?_⟩, rfl, rfl⟩
  simp [related_crossing.1]

/-- The second branch ends although it leads back to its start. -/
theorem contributes_second_crossing :
    ¬ crossing.Breaks (numbered 2) ∧
      ∀ e, crossing.Contributes (numbered 2) e ↔ e = numbered 2 ∨ e = numbered 5 := by
  obtain ⟨-, second, -, -, fifth⟩ := related_crossing
  have only {y : Entity} (h : crossing.Reaches (numbered 2) y) :
      y = numbered 2 ∨ y = numbered 5 := by
    have closed : ∀ e ∈ [numbered 2, numbered 5], ∀ x ∈ crossing.related e,
        x ∈ [numbered 2, numbered 5] := by simp [second, fifth]
    simpa using h.mem_of_closed closed List.mem_cons_self
  have whole : ¬ crossing.Breaks (numbered 2) := by
    rintro ⟨y, f, reached, -, fails⟩
    rcases only reached with rfl | rfl <;> cases fails
  refine ⟨whole, fun e => ⟨?_, ?_⟩⟩
  · rintro (rfl | ⟨-, reached⟩)
    · exact .inl rfl
    · exact only reached
  · rintro (rfl | rfl)
    · exact .inl rfl
    · exact .inr ⟨whole, .single ⟨rfl, by simp [second]⟩⟩

theorem contributes_third_crossing :
    ¬ crossing.Breaks (numbered 3) ∧
      ∀ e, crossing.Contributes (numbered 3) e ↔ e = numbered 3 := by
  obtain ⟨-, -, third, -⟩ := related_crossing
  have only {y : Entity} (h : crossing.Reaches (numbered 3) y) : y = numbered 3 := by
    have closed : ∀ e ∈ [numbered 3], ∀ x ∈ crossing.related e, x ∈ [numbered 3] := by
      simp [third]
    simpa using h.mem_of_closed closed List.mem_cons_self
  refine ⟨?_, fun e => ⟨?_, .inl⟩⟩
  · rintro ⟨y, f, reached, -, fails⟩
    cases only reached
    cases fails
  · rintro (rfl | ⟨-, reached⟩)
    · rfl
    · exact only reached

/-- Of three branches that meet, one of them on a cycle, the one that breaks contributes its start
only; what it shares with another one is there nevertheless. -/
theorem extract_branches_crossing :
    ∃ x, crossing.Extracts (numbered 0) (.ok x) ∧
      x.failures.map FailedBranch.entity = [numbered 1] ∧
      ∀ e, e ∈ x.entities ↔ e ∈ [numbered 1, numbered 2, numbered 3, numbered 5] := by
  obtain ⟨outcome, extracts, -, fails, parts⟩ := extract_branches regular_crossing
  cases outcome with
  | error f =>
    cases direct_crossing.symm.trans ((fails f).1 rfl)
  | ok x =>
    obtain ⟨children, direct, -, gathers, -⟩ := parts x rfl
    cases direct_crossing.symm.trans direct
    obtain ⟨second, contributes_second⟩ := contributes_second_crossing
    obtain ⟨third, contributes_third⟩ := contributes_third_crossing
    have contributes_first (e : Entity) :
        crossing.Contributes (numbered 1) e ↔ e = numbered 1 := by
      simp [Contributes, breaks_crossing]
    refine ⟨x, extracts, ?_, fun e => ?_⟩
    · rw [gathers.failures]
      simp [broken, breaks_crossing, second, third]
    · rw [gathers.entities]
      simp only [List.mem_cons, List.not_mem_nil, or_false, exists_eq_or_imp, exists_eq_left,
        contributes_first, contributes_second, contributes_third]
      grind

end RelationAccess

end GridRecords
