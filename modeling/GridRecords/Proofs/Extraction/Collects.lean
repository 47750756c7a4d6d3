/-
# What a walk collects

By the relations of the model a walk from an entity collects what the entity leads to and notes each
dependency.  What it holds already it does not follow again, so the invariant speaks of the
entities that a walk adds: all that one of them depends on is represented and noted in the end
(`walk_collects`).
-/
import GridRecords.Extraction.Order
import GridRecords.Proofs.Extraction.Reaches
import GridRecords.Proofs.Extraction.Walk

namespace GridRecords

variable {root e x y : Entity} {c d : Collected}

/-! ## What is collected -/

namespace Collected

/-- An entity depends on another one, in keys. -/
def Edge (root : Entity) (edge : EntityKey × EntityKey) : Prop :=
  ∃ x y, root.Reaches y ∧ x ∈ y.dependencies ∧ x.key? = some edge.1 ∧ y.key? = some edge.2

/-- Only what a root depends on was collected, each key once. -/
structure Within (c : Collected) (root : Entity) : Prop where
  entities : ∀ x ∈ c.entities, root.DependsOn x
  edges : ∀ edge ∈ c.edges, Edge root edge
  keys : (c.entities.map Entity.key?).Nodup

/-- All that an entity depends on is represented and noted. -/
def Covers (c : Collected) (e : Entity) : Prop :=
  ∀ x ∈ e.dependencies, c.Represents x ∧ c.Notes x e

/-- An entity was met as a dependency of a start, or of what was collected. -/
def Stems (c : Collected) (x start : Entity) : Prop :=
  ∃ p, (p = start ∨ p ∈ c.entities) ∧ x ∈ p.dependencies

theorem Covers.embed (h : c.Covers e) (more : c.Embeds d) : d.Covers e := fun x mem =>
  ⟨(h x mem).1.embed more, (h x mem).2.embed more⟩

theorem covers_of_relationKinds (h : e.kind.relationKinds = []) : c.Covers e := by
  intro x mem
  rw [Entity.dependencies_of_relationKinds h] at mem
  cases mem

theorem within_empty (root : Entity) : empty.Within root :=
  ⟨fun _ mem => absurd mem List.not_mem_nil, fun _ mem => absurd mem List.not_mem_nil,
    List.nodup_nil⟩

end Collected

/-! ## Walking -/

namespace RelationAccess

open Collected

theorem follows_eq (kind : EntityKind) : domain.follows kind = !kind.relationKinds.isEmpty := rfl

/-- By the relations of the model an entity leads to its dependencies. -/
theorem leads_domain : domain.Leads e x ↔ x ∈ e.dependencies := by
  refine ⟨fun leads => leads.2, fun dependency => ⟨?_, dependency⟩⟩
  rw [follows_eq]
  by_cases kinds : e.kind.relationKinds = []
  · rw [Entity.dependencies_of_relationKinds kinds] at dependency
    cases dependency
  · simp [kinds]

theorem reaches_of_domain (h : domain.Reaches e x) : e.Reaches x := by
  induction h with
  | refl => exact .refl e
  | tail _ leads ih => exact ih.tail (leads_domain.1 leads)

theorem dependsOn_of_domain (h : domain.DependsOn e x) : e.DependsOn x := by
  obtain ⟨y, leads, rest⟩ := Relation.TransGen.head'_iff.1 h
  exact ⟨y, leads_domain.1 leads, reaches_of_domain rest⟩

/-- What a walk from an entity leaves: all that was added stems from the entity and is covered. -/
structure Adds (root : Entity) (c : Collected) (e : Entity)
    (result : Option (Except Failure PUnit × Collected)) (after : Collected) : Prop where
  run : result = some (.ok ⟨⟩, after)
  more : c.Extends after
  within : after.Within root
  added : ∀ x ∈ after.entities, x ∈ c.entities ∨ after.Covers x ∧ after.Stems x e

/-- What was read is covered. -/
theorem covers_of_hasRead (h : domain.HasRead c e) : c.Covers e := by
  intro x dependency
  obtain ⟨children, direct, met⟩ := h (leads_domain.2 dependency).1
  have mem : x ∈ children := by
    rw [eq_related_of_direct direct]
    exact dependency
  have identified := Entity.key?_ne_none_of_mem_dependencies dependency
  obtain ⟨known, noted⟩ := met x mem
  refine ⟨?_, noted identified (Entity.key?_ne_none_of_dependency dependency)⟩
  rcases known with mem | held
  · exact ⟨x, mem, rfl⟩
  · exact (holds_iff identified).1 held

/-- **A walk covers all that it adds.** Within its rank it ends without a failure. -/
theorem walk_collects (depth : Nat) (he : root.Reaches e) (kinds : e.kind.relationKinds ≠ [])
    (within : c.Within root) (enough : e.rank < depth) :
    ∃ after, Adds root c e (domain.walk depth e c) after ∧ after.Covers e := by
  have followed : domain.follows e.kind = true := by simp [follows_eq, kinds]
  obtain ⟨⟨outcome, after⟩, run⟩ :=
    Option.ne_none_iff_exists'.1 (walk_ne_none descends_domain depth e c enough)
  obtain ⟨walked, read⟩ := walked_of_walk followed run
  have ok : outcome = .ok ⟨⟩ := by
    cases outcome with
    | ok _ => rfl
    | error f =>
      -- the relations of the model can be read wherever they are followed
      obtain ⟨y, -, followed, fails⟩ := walked.failed f rfl
      have kinds : y.kind.relationKinds ≠ [] := by simpa [follows_eq] using followed
      rw [Entity.direct_domain kinds] at fails
      cases fails
  have depends {x : Entity} (h : domain.DependsOn e x) : root.DependsOn x :=
    he.dependsOn_trans (dependsOn_of_domain h)
  refine ⟨after, ⟨by rw [run, ok], walked.more, ⟨?_, ?_, ?_⟩, ?_⟩, covers_of_hasRead (read ok)⟩
  · intro x mem
    exact (walked.found x mem).elim (within.entities x) depends
  · intro edge mem
    rcases walked.edges edge mem with old | ⟨x, y, reached, leads, keyX, keyY⟩
    · exact within.edges edge old
    · exact ⟨x, y, he.trans (reaches_of_domain reached), leads_domain.1 leads, keyX, keyY⟩
  · exact walked.keys (fun x h => (depends h).key?_ne_none) within.keys
  · intro x mem
    rcases walked.read ok x mem with old | readX
    · exact .inl old
    · refine (walked.stems x mem).imp_right fun ⟨p, of, leads⟩ => ?_
      exact ⟨covers_of_hasRead readX, p, of, leads_domain.1 leads⟩

end RelationAccess

end GridRecords
