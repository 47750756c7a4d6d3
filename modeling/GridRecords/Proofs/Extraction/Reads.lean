/-
# What a walk reads

Relations may lead back, also to the entity itself.  A walk reads the relations of its start, and of
each entity that it collects as soon as it does so, if there are any to follow.  So it reads its
start and then what it collects, in order (`readsAdded_of_walk`), and nothing else counts for it
(`walk_of_visited`).

No key is collected twice.  So within a branch no identity is read twice but that of the start: it
is read before it is collected, and again where relations lead back to it (`timesRead_le`).  Where
all that is found has a key, of which there are finitely many, an extraction ends once relations
are followed deeper than there are identities (`extract_ends`).
-/
import GridRecords.Proofs.Extraction.Branches
import Mathlib.Data.Set.Card

namespace GridRecords

variable {a other : RelationAccess} {root child e x : Entity} {b : Branch}
  {c d after : Collected} {outcome : Except Failure PUnit} {depth : Nat}

/-! ## What was read -/

namespace RelationAccess

/-- What was read since an earlier state is what was collected since, in order, as far as there are
relations to follow. -/
def ReadsAdded (a : RelationAccess) (c d : Collected) : Prop :=
  ∃ added, d.entities = c.entities ++ added ∧
    d.visited = c.visited ++ added.filter (a.follows ·.kind)

namespace ReadsAdded

theorem refl (c : Collected) : a.ReadsAdded c c := ⟨[], by simp⟩

theorem trans (first : a.ReadsAdded c d) (second : a.ReadsAdded d after) :
    a.ReadsAdded c after := by
  obtain ⟨added, entities, visited⟩ := first
  obtain ⟨later, entities', visited'⟩ := second
  refine ⟨added ++ later, ?_, ?_⟩
  · rw [entities', entities, List.append_assoc]
  · rw [visited', visited, List.filter_append, List.append_assoc]

theorem subset (h : a.ReadsAdded c d) : c.visited ⊆ d.visited := by
  obtain ⟨added, -, visited⟩ := h
  rw [visited]
  exact List.subset_append_left _ _

theorem connect (c : Collected) (x e : Entity) : a.ReadsAdded c (c.connect x e) :=
  ⟨[], by simp [Collected.entities_connect], by simp [Collected.visited_connect]⟩

/-- An entity without relations to follow is collected only. -/
theorem insert (new : ¬ c.holds x = true) (none : ¬ a.follows x.kind = true) :
    a.ReadsAdded c (c.insert x) := by
  refine ⟨[x], Collected.entities_insert new, ?_⟩
  have unread : [x].filter (a.follows ·.kind) = [] := by simpa using none
  rw [Collected.visited_insert, unread, List.append_nil]

/-- Another one is read as soon as it is collected. -/
theorem insert_visit (new : ¬ c.holds x = true) (followed : a.follows x.kind = true) :
    a.ReadsAdded c ((c.insert x).visit x) := by
  refine ⟨[x], Collected.entities_insert new, ?_⟩
  have read : [x].filter (a.follows ·.kind) = [x] := by simpa using followed
  rw [read, Collected.visit, Collected.visited_insert]

end ReadsAdded

theorem readsAdded_of_follow {deeper : Entity → Walk PUnit}
    (below : ∀ d, deeper child d = some (outcome, after) → a.ReadsAdded (d.visit child) after)
    (h : a.follow deeper e child c = some (outcome, after)) : a.ReadsAdded c after := by
  have linked : a.ReadsAdded c (c.connect child e) := .connect c child e
  unfold follow at h
  by_cases held : (c.connect child e).holds child = true
  · rw [if_pos held] at h
    cases h
    exact linked
  rw [if_neg held] at h
  by_cases followed : a.follows child.kind = true
  · rw [if_pos followed] at h
    exact linked.trans ((ReadsAdded.insert_visit held followed).trans (below _ h))
  · rw [if_neg followed] at h
    cases h
    exact linked.trans (.insert held followed)

/-- **A walk reads its start, and then what it collects.** -/
theorem readsAdded_of_walk (h : a.walk depth e c = some (outcome, after)) :
    a.ReadsAdded (c.visit e) after := by
  induction depth generalizing e c outcome after with
  | zero => cases h
  | succ depth ih =>
    simp only [walk] at h
    cases direct : a.direct e with
    | error f =>
      rw [direct] at h
      cases h
      exact .refl _
    | ok children =>
      rw [direct] at h
      exact forM_keeps ReadsAdded.refl ReadsAdded.trans
        (fun child _ c outcome after => readsAdded_of_follow fun d => ih) h

/-- **What a walk did not read does not count for it.** -/
theorem walk_of_visited (kinds : other.kinds = a.kinds)
    (h : a.walk depth e c = some (outcome, after))
    (same : ∀ x ∈ after.visited, other.read x = a.read x) :
    other.walk depth e c = some (outcome, after) := by
  induction depth generalizing e c outcome after with
  | zero => cases h
  | succ depth ih =>
    have here : e ∈ after.visited :=
      (readsAdded_of_walk h).subset (List.mem_append_right _ (List.mem_singleton.2 rfl))
    have alike : other.direct e = a.direct e :=
      direct_congr (congrFun kinds e.kind) (same e here)
    simp only [walk] at h ⊢
    rw [alike]
    cases direct : a.direct e with
    | error f => rwa [direct] at h
    | ok children =>
      rw [direct] at h
      -- what was read until a child was followed is among what was read in the end
      refine forM_mono_of (P := fun d => ∀ x ∈ d.visited, other.read x = a.read x) ?_ ?_ h same
      · intro child _ c outcome after step same x mem
        exact same x ((readsAdded_of_follow (fun d => readsAdded_of_walk) step).subset mem)
      · intro child _ c outcome after step same
        exact follow_mono (by unfold follows; rw [kinds]) (fun c run => ih run same) step

end RelationAccess

/-! ## Branches -/

/-- How often a branch read the relations of an identity. -/
def Branch.timesRead (b : Branch) (k : EntityKey) : Nat :=
  (b.collected.visited.map Entity.key?).count (some k)

/-- A branch lists what it read: its start and then what it collected, where there are relations to
follow.  An access that reads the same there has the same branch. -/
structure Branch.ListsRead (b : Branch) (a : RelationAccess) : Prop where
  order : b.collected.visited =
    if a.follows b.start.kind then
      b.start :: b.collected.entities.filter (a.follows ·.kind)
    else []
  only : ∀ other : RelationAccess, other.kinds = a.kinds →
    (∀ x ∈ b.collected.visited, other.read x = a.read x) →
    ∀ depth, a.branch depth b.start = some b → other.branch depth b.start = some b

namespace RelationAccess

theorem branch_of_visited (kinds : other.kinds = a.kinds)
    (same : ∀ x ∈ b.collected.visited, other.read x = a.read x)
    (h : a.branch depth child = some b) : other.branch depth child = some b := by
  have follows : other.follows child.kind = a.follows child.kind := by
    unfold RelationAccess.follows
    rw [kinds]
  obtain ⟨start, outcome, collected⟩ := b
  obtain ⟨rfl, ⟨followed, run⟩ | ⟨none, rfl, rfl⟩⟩ := branch_cases h
  · unfold branch
    rw [follows, if_pos followed, walk_of_visited kinds run same]
    rfl
  · unfold branch
    rw [follows, if_neg none]

theorem listsRead_of_branch (h : a.branch depth child = some b) : b.ListsRead a := by
  obtain ⟨rfl, cases⟩ := branch_cases h
  refine ⟨?_, fun other kinds same depth => branch_of_visited kinds same⟩
  rcases cases with ⟨followed, run⟩ | ⟨none, -, collected⟩
  · obtain ⟨added, entities, visited⟩ := readsAdded_of_walk run
    change b.collected.entities = added at entities
    rw [if_pos followed, visited, entities]
    rfl
  · rw [if_neg none, collected]
    rfl

/-- No key is collected twice. -/
theorem nodup_of_branch (identified : ∀ x, a.DependsOn child x → x.key? ≠ none)
    (h : a.branch depth child = some b) : (b.collected.entities.map Entity.key?).Nodup := by
  obtain ⟨-, ⟨followed, run⟩ | ⟨-, -, collected⟩⟩ := branch_cases h
  · exact (walked_of_walk followed run).1.keys identified List.nodup_nil
  · rw [collected]
    exact List.nodup_nil

/-- **No identity is read twice, but that of the start.** -/
theorem timesRead_le (identified : ∀ x, a.DependsOn child x → x.key? ≠ none)
    (h : a.branch depth child = some b) (k : EntityKey) :
    b.timesRead k ≤ if b.start.key? = some k then 2 else 1 := by
  have keys := nodup_of_branch identified h
  have once : ((b.collected.entities.filter (a.follows ·.kind)).map Entity.key?).count (some k)
      ≤ 1 :=
    List.nodup_iff_count_le_one.1 (keys.sublist (List.filter_sublist.map _)) (some k)
  unfold Branch.timesRead
  rw [(listsRead_of_branch h).order]
  by_cases followed : a.follows b.start.kind = true
  · rw [if_pos followed, List.map_cons, List.count_cons]
    by_cases start : b.start.key? = some k
    · simp only [start, beq_self_eq_true, if_true]
      omega
    · simpa [start] using once
  · rw [if_neg followed]
    exact Nat.zero_le _

/-- The branches of an extraction, each from its start. -/
theorem branches_of_mapM {children : List Entity} {branches : List Branch}
    (h : children.mapM (a.branch depth) = some branches) :
    branches.map Branch.start = children ∧ ∀ b ∈ branches, a.branch depth b.start = some b := by
  induction children generalizing branches with
  | nil =>
    cases h
    exact ⟨rfl, fun b mem => absurd mem List.not_mem_nil⟩
  | cons child rest ih =>
    rw [List.mapM_cons] at h
    obtain ⟨b, first, h⟩ := Outcome.bind_eq_some.1 h
    obtain ⟨others, later, h⟩ := Outcome.bind_eq_some.1 h
    cases h
    obtain ⟨starts, runs⟩ := ih later
    have start := (branch_cases first).1
    refine ⟨by rw [List.map_cons, start, starts], fun b' mem => ?_⟩
    rcases List.mem_cons.1 mem with rfl | mem
    · rwa [start]
    · exact runs b' mem

/-! ## Extractions end -/

/-- The identities that are found from a root. -/
def identities (a : RelationAccess) (root : Entity) : Set EntityKey :=
  {k | ∃ x, a.Finds root x ∧ x.key? = some k}

/-- An extraction ends once relations are followed deeper than there are identities. -/
theorem extractWithin_ends (identified : ∀ x, a.Finds root x → x.key? ≠ none)
    (finite : (a.identities root).Finite) {children : List Entity}
    (direct : a.direct root = .ok children) :
    ∃ branches : List Branch, branches.map Branch.start = children ∧
      ∀ depth, (a.identities root).ncard < depth →
        a.extractWithin depth root = some (.ok (.ofBranches root branches)) ∧
        ∀ b ∈ branches, a.branch depth b.start = some b := by
  have enough : finite.toFinset.card < (a.identities root).ncard + 1 := by
    rw [Set.ncard_eq_toFinset_card _ finite]
    exact Nat.lt_succ_self _
  have ends : ∀ child ∈ children,
      (a.branch ((a.identities root).ncard + 1) child).isSome := by
    intro child mem
    rw [eq_related_of_direct direct] at mem
    have found : a.Finds root child := ⟨child, mem, .refl⟩
    exact Option.isSome_iff_exists.2
      (branch_ends (fun x depends => known_of_finds identified finite found depends) enough)
  obtain ⟨branches, mapped⟩ := Option.isSome_iff_exists.1 (mapM_isSome _ _ ends)
  obtain ⟨starts, runs⟩ := branches_of_mapM mapped
  refine ⟨branches, starts, fun depth more => ⟨?_, fun b mem => branch_mono more (runs b mem)⟩⟩
  refine extractWithin_mono more ?_
  simp only [extractWithin, direct, mapped, Option.map_some]

/-- **Extractions end, on cycles as well.**  Where all that is found from a root has a key, and has
finitely many of them, an extraction has one outcome, whatever the depth beyond their number.  It
is put together from branches, each from an entity found directly, that list what they read; and
within a branch no identity is read more than once, but that of its start, which is read twice at
most. -/
theorem extract_ends (identified : ∀ x, a.Finds root x → x.key? ≠ none)
    (finite : (a.identities root).Finite) :
    ∃ outcome,
      (∀ depth, (a.identities root).ncard < depth → a.extractWithin depth root = some outcome) ∧
      (∀ descends : a.Descends, a.extract descends root = outcome) ∧
      (∀ f, outcome = .error f ↔ a.direct root = .error f) ∧
      ∀ x, outcome = .ok x → ∃ branches : List Branch,
        a.direct root = .ok (branches.map Branch.start) ∧ x = .ofBranches root branches ∧
        ∀ b ∈ branches,
          (∀ depth, (a.identities root).ncard < depth → a.branch depth b.start = some b) ∧
          b.ListsRead a ∧
          ∀ k, b.timesRead k ≤ if b.start.key? = some k then 2 else 1 := by
  have total {outcome : Except Failure Extraction}
      (ends : ∀ depth, (a.identities root).ncard < depth →
        a.extractWithin depth root = some outcome) (descends : a.Descends) :
      a.extract descends root = outcome :=
    (extracts_extract descends root).unique ⟨(a.identities root).ncard + 1, ends⟩
  cases direct : a.direct root with
  | error f =>
    have ends (depth : Nat) : a.extractWithin depth root = some (.error f) := by
      simp only [extractWithin, direct]
    refine ⟨.error f, fun depth _ => ends depth, total fun depth _ => ends depth, fun g => ?_,
      fun x ok => by cases ok⟩
    constructor <;> (intro error; cases error; rfl)
  | ok children =>
    obtain ⟨branches, starts, ends⟩ := extractWithin_ends identified finite direct
    refine ⟨.ok (.ofBranches root branches), fun depth more => (ends depth more).1,
      total fun depth more => (ends depth more).1, fun g => ?_, ?_⟩
    · constructor <;> (intro error; cases error)
    rintro x ok
    cases ok
    refine ⟨branches, by rw [starts], rfl, fun b mem => ?_⟩
    have run := (ends _ (Nat.lt_succ_self _)).2 b mem
    refine ⟨fun depth more => (ends depth more).2 b mem, listsRead_of_branch run, ?_⟩
    -- what the branch leads to is found from the root
    have start : b.start ∈ a.related root := by
      rw [← eq_related_of_direct direct, ← starts]
      exact List.mem_map_of_mem mem
    have found : a.Finds root b.start := ⟨b.start, start, .refl⟩
    exact timesRead_le (fun y depends => identified y (found.tail depends.reaches)) run

theorem visited_crossing :
    (crossing.branch 6 (numbered 1)).map (·.collected.visited) =
        some [numbered 1, numbered 5, numbered 2, numbered 4] ∧
      (crossing.branch 6 (numbered 2)).map (·.collected.visited) =
        some [numbered 2, numbered 2, numbered 5] ∧
      (crossing.branch 6 (numbered 3)).map (·.collected.visited) = some [numbered 3] :=
  ⟨rfl, rfl, rfl⟩

/-- Of three branches that meet the first one ends where it cannot read on.  The second one reads
its start once more, as relations lead back to it. -/
theorem extract_ends_crossing :
    ∃ x first second third, crossing.Extracts (numbered 0) (.ok x) ∧
      x = .ofBranches (numbered 0) [first, second, third] ∧
      first.collected.visited = [numbered 1, numbered 5, numbered 2, numbered 4] ∧
      second.collected.visited = [numbered 2, numbered 2, numbered 5] ∧
      third.collected.visited = [numbered 3] := by
  obtain ⟨outcome, ends, -, fails, parts⟩ :=
    extract_ends regular_crossing.identified regular_crossing.finite
  cases outcome with
  | error f => cases direct_crossing.symm.trans ((fails f).1 rfl)
  | ok x =>
    obtain ⟨branches, direct, together, each⟩ := parts x rfl
    have read {b : Branch} (mem : b ∈ branches) {start : Entity} (here : b.start = start)
        {visited : List Entity}
        (run : (crossing.branch 6 start).map (·.collected.visited) = some visited) :
        b.collected.visited = visited := by
      obtain ⟨b', found, rfl⟩ := Option.map_eq_some_iff.1 run
      have deeper :=
        (each b mem).1 (max 6 ((crossing.identities (numbered 0)).ncard + 1)) (by omega)
      rw [here, branch_mono (Nat.le_max_left _ _) found] at deeper
      cases deeper
      rfl
    have starts : branches.map Branch.start = [numbered 1, numbered 2, numbered 3] :=
      (Except.ok.inj (direct_crossing.symm.trans direct)).symm
    obtain ⟨first, rest, rfl, startFirst, starts⟩ := List.map_eq_cons_iff.1 starts
    obtain ⟨second, rest, rfl, startSecond, starts⟩ := List.map_eq_cons_iff.1 starts
    obtain ⟨third, rest, rfl, startThird, starts⟩ := List.map_eq_cons_iff.1 starts
    cases List.map_eq_nil_iff.1 starts
    obtain ⟨runFirst, runSecond, runThird⟩ := visited_crossing
    exact ⟨x, first, second, third, ⟨_, ends⟩, together,
      read (by simp) startFirst runFirst, read (by simp) startSecond runSecond,
      read (by simp) startThird runThird⟩

end RelationAccess

end GridRecords
