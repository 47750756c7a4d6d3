/-
# The order of writing

Extracted entities are written so that dependencies come before what depends on them.  A
depth-first search lists each key after everything that depends on it; the reverse of that list
is the order.  It is refused if a key has a dependency that does not stand before it, which is
so exactly when the dependencies form a cycle.
-/
import GridRecords.Extraction.Walk

namespace GridRecords

/-- Keys with the dependencies between them.  Both lists are without repetition. -/
structure DependencyGraph where
  nodes : List EntityKey
  /-- a dependency and its dependent -/
  edges : List (EntityKey × EntityKey)

namespace DependencyGraph

/-- The graph of some keys, and of the ends of some edges that are not among them. -/
def ofEdges (keys : List EntityKey) (edges : List (EntityKey × EntityKey)) : DependencyGraph :=
  ⟨(keys ++ edges.flatMap fun (k, l) => [k, l]).eraseDups, edges.eraseDups⟩

/-- The keys that depend directly on a key. -/
def dependents (g : DependencyGraph) (k : EntityKey) : List EntityKey :=
  (g.edges.filter (·.1 = k)).map (·.2)

/-- The keys that a key depends on directly. -/
def dependencies (g : DependencyGraph) (k : EntityKey) : List EntityKey :=
  (g.edges.filter (·.2 = k)).map (·.1)

/-! ## Searching -/

/-- How far a search has come. -/
structure Search where
  /-- the keys that were not reached yet -/
  fresh : List EntityKey
  /-- the keys whose dependents are all listed, the last one first -/
  finished : List EntityKey

/-- Lists a finished key, once. -/
def Search.finish (s : Search) (k : EntityKey) : Search :=
  if k ∈ s.finished then s else { s with finished := k :: s.finished }

/-- Searches from the keys on a stack, the top first.  A key stays on the stack below its
dependents until they are finished.  A key that depends on itself stops the search. -/
def searchStack (g : DependencyGraph) (fresh finished : List EntityKey) :
    List EntityKey → Except EntityKey Search
  | [] => .ok ⟨fresh, finished⟩
  | top :: stack =>
    if _h : top ∈ fresh then
      if top ∈ g.dependents top then .error top
      else
        let fresh' := fresh.erase top
        let next := (g.dependents top).filter (· ∈ fresh')
        searchStack g fresh' finished (next.reverse ++ top :: stack)
    else searchStack g fresh (Search.finish ⟨fresh, finished⟩ top).finished stack
termination_by stack => (fresh.length, stack.length)
decreasing_by
  · have := List.length_erase_of_mem _h
    have := List.length_pos_of_mem _h
    simp_wf
    omega
  · simp_wf
    omega

/-- Searches from each key that was not reached from an earlier one. -/
def searchAll (g : DependencyGraph) : Except EntityKey Search :=
  g.nodes.foldlM (fun s k =>
    if k ∈ s.fresh then g.searchStack s.fresh s.finished [k] else .ok s) ⟨g.nodes, []⟩

/-- The last dependency, of the first key that has one, that does not stand before its dependent
in a list. -/
def misplaced? (g : DependencyGraph) (before : List EntityKey) : List EntityKey → Option EntityKey
  | [] => none
  | k :: rest =>
    match ((g.dependencies k).filter (· ∉ k :: before)).getLast? with
    | some d => some d
    | none => misplaced? g (k :: before) rest

/-- All keys, dependencies before their dependents, or a key on a cycle. -/
def sort (g : DependencyGraph) : Except EntityKey (List EntityKey) := do
  let s ← g.searchAll
  match g.misplaced? [] s.finished with
  | some k => .error k
  | none => .ok s.finished

end DependencyGraph

namespace Extraction

/-- The dependencies between the extracted entities and the root. -/
def graph (x : Extraction) : DependencyGraph := .ofEdges (x.entities.filterMap Entity.key?) x.edges

/-- The entity that was extracted under a key. -/
def find? (x : Extraction) (k : EntityKey) : Option Entity :=
  x.entities.find? (·.key? = some k)

/-- The extracted entities, dependencies before their dependents.  Entities without a key come
first. -/
def persistenceOrder (x : Extraction) : Except Failure (List Entity) :=
  match x.graph.sort with
  | .error k =>
    .error (.extractionConfiguration x.root.describe s!"relations form a cycle through {k.text}")
  | .ok keys =>
    .ok (x.entities.filter (·.key?.isNone)
      ++ (keys.filter (some · ≠ x.root.key?)).filterMap x.find?)

end Extraction

end GridRecords
