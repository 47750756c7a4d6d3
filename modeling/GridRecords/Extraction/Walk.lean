/-
# Extraction

Everything an entity depends on, through any number of relations.  Each entity found directly
starts a branch of its own; a branch that fails is noted and dropped, and its siblings still
contribute.

A walk follows the relations of an entity once it has been collected for the first time, so it
ends even where relations lead back.  Its recursion is on a bound for the depth, and `none` says
that the bound was too low.  Where relations lead to entities of lower rank the rank is enough
(`walk_ne_none`), so `RelationAccess.extract` is total for such accesses.
-/
import GridRecords.Extraction.Access

namespace GridRecords

/-- Whether two entities are the same: they have the same key, or none and are equal. -/
def Entity.isSame (a b : Entity) : Bool :=
  match a.key?, b.key? with
  | some k, some l => k == l
  | none, none => a == b
  | _, _ => false

/-! ## What a walk collects -/

/-- Entities, each once, with the dependencies between them. -/
structure Collected where
  /-- the entities in the order in which they were found -/
  entities : List Entity
  /-- keys of a dependency and of its dependent, in the order in which they were followed -/
  edges : List (EntityKey × EntityKey)
  /-- the entities whose relations were read -/
  visited : List Entity

namespace Collected

/-- Nothing was found yet. -/
def empty : Collected := ⟨[], [], []⟩

/-- Whether an entity was found already. -/
def holds (c : Collected) (e : Entity) : Bool := c.entities.any (·.isSame e)

/-- Adds an entity unless it was found already. -/
def insert (c : Collected) (e : Entity) : Collected :=
  if c.holds e then c else { c with entities := c.entities ++ [e] }

/-- Notes that one entity depends on another.  Entities without a key are not noted. -/
def connect (c : Collected) (dependency dependent : Entity) : Collected :=
  match dependency.key?, dependent.key? with
  | some k, some l => { c with edges := c.edges ++ [(k, l)] }
  | _, _ => c

/-- Notes that the relations of an entity are read. -/
def visit (c : Collected) (e : Entity) : Collected := { c with visited := c.visited ++ [e] }

/-- Adds what a branch collected. -/
def absorb (c branch : Collected) : Collected :=
  let all := branch.entities.foldl insert c
  { all with edges := all.edges ++ branch.edges, visited := all.visited ++ branch.visited }

end Collected

/-! ## Walking -/

/-- A walk: `none` if the bound for its depth was too low, else whether it failed, and what it had
collected by then. -/
abbrev Walk := ExceptT Failure (StateT Collected Option)

/-- A branch of an extraction. -/
structure Branch where
  /-- the entity, found directly, that the branch starts from -/
  start : Entity
  outcome : Except Failure PUnit
  /-- what was collected until the branch ended or failed -/
  collected : Collected

namespace RelationAccess

/-- Follows a relation from an entity to a child.  The child is collected unless it was before, and
then its own relations are followed, if its kind has any. -/
def follow (a : RelationAccess) (deeper : Entity → Walk PUnit) (e child : Entity) :
    Walk PUnit := fun c =>
  let linked := c.connect child e
  if linked.holds child then some (.ok ⟨⟩, linked)
  else if a.follows child.kind then deeper child (linked.insert child)
  else some (.ok ⟨⟩, linked.insert child)

/-- Collects the dependencies of an entity, relations being followed to a depth. -/
def walk (a : RelationAccess) : Nat → Entity → Walk PUnit
  | 0, _ => fun _ => none
  | depth + 1, e => fun c =>
    match a.direct e with
    | .error f => some (.error f, c.visit e)
    | .ok children => children.forM (a.follow (walk a depth) e) (c.visit e)

/-- Collects what one entity found directly depends on. -/
def branch (a : RelationAccess) (depth : Nat) (child : Entity) : Option Branch :=
  if a.follows child.kind then do
    let (outcome, collected) ← a.walk depth child .empty
    return ⟨child, outcome, collected⟩
  else some ⟨child, .ok ⟨⟩, .empty⟩

end RelationAccess

/-! ## Extractions -/

/-- A branch that failed. -/
structure FailedBranch where
  /-- the entity that the branch started from -/
  entity : Entity
  failure : Failure

/-- What was found from a root, the root itself apart. -/
structure Extraction where
  root : Entity
  /-- each once, in the order in which they were found -/
  entities : List Entity
  /-- keys of a dependency and of its dependent -/
  edges : List (EntityKey × EntityKey)
  failures : List FailedBranch

namespace Extraction

/-- Number of entities. -/
def size (x : Extraction) : Nat := x.entities.length

/-- Whether nothing was found. -/
def isEmpty (x : Extraction) : Bool := x.entities.isEmpty

/-- Whether an entity was found. -/
def contains (x : Extraction) (e : Entity) : Bool := x.entities.any (·.isSame e)

/-- Whether every branch was walked. -/
def isComplete (x : Extraction) : Bool := x.failures.isEmpty

/-- Puts the branches together: first the entities found directly, then what the branches that did
not fail collected. -/
def ofBranches (root : Entity) (branches : List Branch) : Extraction :=
  let children := branches.foldl (fun c b => (c.connect b.start root).insert b.start)
    Collected.empty
  let collected := branches.foldl (fun c b =>
    match b.outcome with
    | .ok _ => c.absorb b.collected
    | .error _ => c) children
  let failures := branches.filterMap fun b =>
    match b.outcome with
    | .ok _ => none
    | .error f => some ⟨b.start, f⟩
  ⟨root, collected.entities, collected.edges, failures⟩

end Extraction

namespace RelationAccess

/-- Extracts everything an entity depends on, relations being followed to a depth. -/
def extractWithin (a : RelationAccess) (depth : Nat) (root : Entity) :
    Option (Except Failure Extraction) :=
  match a.direct root with
  | .error f => some (.error f)
  | .ok children => (children.mapM (a.branch depth)).map fun branches =>
    .ok (.ofBranches root branches)

/-! ## Enough depth -/

/-- Relations lead to entities of lower rank. -/
def Descends (a : RelationAccess) : Prop :=
  ∀ e relations, a.read e = .ok relations →
    ∀ r ∈ relations, ∀ x ∈ r.related, x.rank < e.rank

theorem descends_domain : domain.Descends := by
  intro e relations h r hr x hx
  cases h
  exact Entity.rank_lt_of_mem_relations hr hx

theorem descends_limited (failing empty untagged : List EntityKind) :
    (limited failing empty untagged).Descends := by
  intro e relations h r hr x hx
  simp only [limited] at h
  split at h
  · cases h
  · split at h <;> cases h
    · cases hr
    · exact Entity.rank_lt_of_mem_relations hr hx

theorem rank_lt_of_mem_direct {a : RelationAccess} (h : a.Descends) {e x : Entity}
    {found : List Entity} (hf : a.direct e = .ok found) (hx : x ∈ found) : x.rank < e.rank := by
  unfold direct at hf
  cases read : a.read e with
  | error f => rw [read] at hf; cases hf
  | ok relations =>
    rw [read] at hf
    have eq : found = relations.flatMap Relation.persistable := by
      simp only [bind, Except.bind, pure, Except.pure] at hf
      split at hf
      · split at hf <;> cases hf
        rfl
      · cases hf; rfl
    subst eq
    obtain ⟨r, hr, hx⟩ := List.mem_flatMap.1 hx
    exact h e relations read r hr x (Relation.mem_persistable_iff.1 hx).1

/-- A walk over a list ends if each of its steps ends. -/
theorem forM_ne_none {α : Type} (f : α → Walk PUnit) (l : List α)
    (h : ∀ x ∈ l, ∀ c, f x c ≠ none) (c : Collected) : l.forM f c ≠ none := by
  induction l generalizing c with
  | nil => intro e; cases e
  | cons x rest ih =>
    intro e
    change (f x c).bind _ = none at e
    cases step : f x c with
    | none => exact h x List.mem_cons_self c step
    | some r =>
      rw [step] at e
      obtain ⟨outcome, after⟩ := r
      cases outcome with
      | error f => cases e
      | ok _ => exact ih (fun y hy => h y (List.mem_cons_of_mem _ hy)) after e

/-- A walk from an entity ends within its rank. -/
theorem walk_ne_none {a : RelationAccess} (h : a.Descends) (depth : Nat) (e : Entity)
    (c : Collected) (hd : e.rank < depth) : a.walk depth e c ≠ none := by
  induction depth generalizing e c with
  | zero => omega
  | succ depth ih =>
    simp only [walk]
    split
    · intro none; cases none
    · rename_i children direct
      refine forM_ne_none _ children (fun child hc c => ?_) _
      have lower := rank_lt_of_mem_direct h direct hc
      simp only [follow]
      split
      · intro none; cases none
      · split
        · exact ih child _ (by omega)
        · intro none; cases none

/-- Mapping steps that all end ends. -/
theorem mapM_isSome {α β : Type} (f : α → Option β) (l : List α) (h : ∀ x ∈ l, (f x).isSome) :
    (l.mapM f).isSome := by
  induction l with
  | nil => rfl
  | cons x rest ih =>
    rw [List.mapM_cons]
    obtain ⟨y, hy⟩ := Option.isSome_iff_exists.1 (h x List.mem_cons_self)
    obtain ⟨ys, hys⟩ := Option.isSome_iff_exists.1 (ih fun z hz => h z (List.mem_cons_of_mem _ hz))
    rw [hy, hys]
    rfl

theorem isSome_extractWithin {a : RelationAccess} (h : a.Descends) (root : Entity) :
    (a.extractWithin root.rank root).isSome := by
  unfold extractWithin
  split
  · rfl
  · rename_i children direct
    have branches : (children.mapM (a.branch root.rank)).isSome := by
      refine mapM_isSome _ _ fun child hc => ?_
      have lower := rank_lt_of_mem_direct h direct hc
      unfold branch
      split
      · obtain ⟨r, hr⟩ := Option.ne_none_iff_exists'.1 (walk_ne_none h root.rank child .empty lower)
        rw [hr]
        rfl
      · rfl
    simpa using branches

/-- Extracts everything an entity depends on.  It fails only if the entities found directly cannot
be read. -/
def extract (a : RelationAccess) (h : a.Descends) (root : Entity) : Except Failure Extraction :=
  (a.extractWithin root.rank root).get (isSome_extractWithin h root)

end RelationAccess

/-- Extracts everything an entity depends on, by the relations of the model. -/
def Entity.extract (e : Entity) : Except Failure Extraction :=
  RelationAccess.domain.extract RelationAccess.descends_domain e

end GridRecords
