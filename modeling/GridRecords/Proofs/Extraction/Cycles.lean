/-
# Cycles of dependencies

Dependencies are noted as pairs, a dependency first and its dependent second.  They form a cycle
when something comes before itself along one or more of them.

There is no cycle exactly when numbers can be given that rise along every pair: they rise along
every path then (`Precedes.rank_lt`), and where there is no cycle, the number of those that come
before is such a rank (`exists_rank`).
-/
import Mathlib.Data.Finset.Card
import Mathlib.Data.List.Basic
import Mathlib.Logic.Relation

namespace GridRecords

variable {α : Type} {edges more : List (α × α)} {rank : α → Nat} {k l m : α}

/-- Something comes before something else along one or more pairs. -/
def Precedes (edges : List (α × α)) : α → α → Prop := Relation.TransGen fun k l => (k, l) ∈ edges

/-- Something comes before itself. -/
def Cyclic (edges : List (α × α)) : Prop := ∃ k, Precedes edges k k

theorem Precedes.of_mem (h : (k, l) ∈ edges) : Precedes edges k l := .single h

theorem Precedes.trans (h : Precedes edges k l) (h' : Precedes edges l m) : Precedes edges k m :=
  Relation.TransGen.trans h h'

/-- What comes before something does so along more pairs as well. -/
theorem Precedes.mono (h : Precedes edges k l) (all : ∀ edge ∈ edges, edge ∈ more) :
    Precedes more k l :=
  Relation.TransGen.mono (fun _ _ edge => all _ edge) _ _ h

theorem Cyclic.mono (h : Cyclic edges) (all : ∀ edge ∈ edges, edge ∈ more) : Cyclic more := by
  obtain ⟨k, loop⟩ := h
  exact ⟨k, loop.mono all⟩

/-! ## Ranks -/

/-- A rank that rises along each pair rises along each path. -/
theorem Precedes.rank_lt (rises : ∀ k l, (k, l) ∈ edges → rank k < rank l)
    (h : Precedes edges k l) : rank k < rank l := by
  induction h with
  | single edge => exact rises _ _ edge
  | tail _ edge ih => exact Nat.lt_trans ih (rises _ _ edge)

/-- Where a rank rises there is no cycle. -/
theorem not_cyclic_of_rank (rank : α → Nat) (rises : ∀ k l, (k, l) ∈ edges → rank k < rank l) :
    ¬ Cyclic edges := by
  rintro ⟨k, loop⟩
  exact Nat.lt_irrefl _ (loop.rank_lt rises)

/-- **Where there is no cycle, a rank rises**: the number of those that come before. -/
theorem exists_rank (acyclic : ¬ Cyclic edges) :
    ∃ rank : α → Nat, ∀ k l, (k, l) ∈ edges → rank k < rank l := by
  classical
  refine ⟨fun l => ((edges.map Prod.fst).toFinset.filter (Precedes edges · l)).card, ?_⟩
  intro k l edge
  apply Finset.card_lt_card
  refine ⟨fun m mem => ?_, fun all => ?_⟩
  · rw [Finset.mem_filter] at mem ⊢
    exact ⟨mem.1, mem.2.trans (.of_mem edge)⟩
  · -- the dependency itself comes before its dependent, and not before itself
    have here : k ∈ (edges.map Prod.fst).toFinset.filter (Precedes edges · l) :=
      Finset.mem_filter.2 ⟨List.mem_toFinset.2 (List.mem_map_of_mem edge), .of_mem edge⟩
    exact acyclic ⟨k, (Finset.mem_filter.1 (all here)).2⟩

end GridRecords
