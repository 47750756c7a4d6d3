/-
# What is collected

Entities are told apart by their keys.  Of several entities with one key only the first that is met
is held; each of the others is represented by it.  What is collected is never lost, so what is
represented or noted once stays so.
-/
import GridRecords.Extraction.Walk

namespace GridRecords

variable {e x y : Entity} {b c d : Collected}

/-- Entities with keys are the same when their keys are equal. -/
theorem Entity.isSame_iff (identified : x.key? ≠ none) :
    y.isSame x = true ↔ y.key? = x.key? := by
  obtain ⟨k, key⟩ := Option.ne_none_iff_exists'.1 identified
  unfold Entity.isSame
  rw [key]
  cases y.key? <;> simp

namespace Collected

/-- Something was collected under the key of an entity. -/
def Represents (c : Collected) (x : Entity) : Prop := ∃ y ∈ c.entities, y.key? = x.key?

/-- It was noted that an entity depends on another one. -/
def Notes (c : Collected) (x e : Entity) : Prop :=
  ∃ k l, x.key? = some k ∧ e.key? = some l ∧ (k, l) ∈ c.edges

/-- Nothing that was collected is lost. -/
structure Extends (c d : Collected) : Prop where
  entities : ∀ x ∈ c.entities, x ∈ d.entities
  edges : ∀ edge ∈ c.edges, edge ∈ d.edges

/-- No key of what was collected is lost, and no dependency. -/
structure Embeds (c d : Collected) : Prop where
  represents : ∀ x ∈ c.entities, d.Represents x
  edges : ∀ edge ∈ c.edges, edge ∈ d.edges

theorem Extends.refl (c : Collected) : c.Extends c := ⟨fun _ mem => mem, fun _ mem => mem⟩

theorem Extends.trans (h : b.Extends c) (h' : c.Extends d) : b.Extends d :=
  ⟨fun x mem => h'.entities x (h.entities x mem), fun edge mem => h'.edges edge (h.edges edge mem)⟩

theorem Extends.embeds (h : c.Extends d) : c.Embeds d :=
  ⟨fun x mem => ⟨x, h.entities x mem, rfl⟩, h.edges⟩

theorem Represents.embed (h : c.Represents x) (more : c.Embeds d) : d.Represents x := by
  obtain ⟨y, mem, key⟩ := h
  obtain ⟨z, mem', key'⟩ := more.represents y mem
  exact ⟨z, mem', key'.trans key⟩

theorem Notes.embed (h : c.Notes x e) (more : c.Embeds d) : d.Notes x e := by
  obtain ⟨k, l, keyX, keyE, edge⟩ := h
  exact ⟨k, l, keyX, keyE, more.edges _ edge⟩

/-! ## Inserting -/

/-- Whether an entity was found is told by its key. -/
theorem holds_iff (identified : x.key? ≠ none) : c.holds x = true ↔ c.Represents x := by
  unfold holds Represents
  simp only [List.any_eq_true, Entity.isSame_iff identified]

theorem edges_insert (c : Collected) (x : Entity) : (c.insert x).edges = c.edges := by
  unfold insert
  split <;> rfl

theorem entities_insert (new : ¬ c.holds x = true) :
    (c.insert x).entities = c.entities ++ [x] := by
  unfold insert
  rw [if_neg new]

theorem visited_insert (c : Collected) (x : Entity) : (c.insert x).visited = c.visited := by
  unfold insert
  split <;> rfl

theorem extends_insert (c : Collected) (x : Entity) : c.Extends (c.insert x) := by
  unfold insert
  split
  · exact .refl c
  · exact ⟨fun y mem => List.mem_append_left _ mem, fun _ mem => mem⟩

theorem mem_insert_self (new : ¬ c.holds x = true) : x ∈ (c.insert x).entities := by
  rw [entities_insert new]
  exact List.mem_append_right _ (List.mem_singleton.2 rfl)

theorem mem_of_mem_insert (h : y ∈ (c.insert x).entities) : y ∈ c.entities ∨ y = x := by
  unfold insert at h
  split at h
  · exact .inl h
  · exact (List.mem_append.1 h).imp_right List.mem_singleton.1

theorem represents_insert (c : Collected) (identified : x.key? ≠ none) :
    (c.insert x).Represents x := by
  by_cases held : c.holds x = true
  · exact ((holds_iff identified).1 held).embed (extends_insert c x).embeds
  · exact ⟨x, mem_insert_self held, rfl⟩

theorem nodup_insert (keys : (c.entities.map Entity.key?).Nodup) (identified : x.key? ≠ none) :
    ((c.insert x).entities.map Entity.key?).Nodup := by
  unfold insert
  split
  · exact keys
  · rename_i new
    rw [holds_iff identified] at new
    rw [List.map_append, List.map_singleton, List.nodup_append]
    refine ⟨keys, List.pairwise_singleton _ _, ?_⟩
    intro k old l single same
    obtain ⟨y, mem, rfl⟩ := List.mem_map.1 old
    exact new ⟨y, mem, same.trans (List.mem_singleton.1 single)⟩

/-! ## Noting -/

theorem entities_connect (c : Collected) (x e : Entity) :
    (c.connect x e).entities = c.entities := by
  unfold connect
  split <;> rfl

theorem visited_connect (c : Collected) (x e : Entity) : (c.connect x e).visited = c.visited := by
  unfold connect
  split <;> rfl

theorem mem_edges_connect {edge : EntityKey × EntityKey} :
    edge ∈ (c.connect x e).edges ↔
      edge ∈ c.edges ∨ x.key? = some edge.1 ∧ e.key? = some edge.2 := by
  obtain ⟨k, l⟩ := edge
  unfold connect
  cases x.key? <;> cases e.key? <;> simp [eq_comm]

theorem extends_connect (c : Collected) (x e : Entity) : c.Extends (c.connect x e) := by
  refine ⟨fun y mem => by rwa [entities_connect], ?_⟩
  unfold connect
  split
  · exact fun edge mem => List.mem_append_left _ mem
  · exact fun _ mem => mem

theorem notes_connect (c : Collected) (identified : x.key? ≠ none) (dependent : e.key? ≠ none) :
    (c.connect x e).Notes x e := by
  obtain ⟨k, keyX⟩ := Option.ne_none_iff_exists'.1 identified
  obtain ⟨l, keyE⟩ := Option.ne_none_iff_exists'.1 dependent
  refine ⟨k, l, keyX, keyE, ?_⟩
  unfold connect
  rw [keyX, keyE]
  exact List.mem_append_right _ (List.mem_singleton.2 rfl)

/-! ## Adding several -/

/-- Entities were added, each under a key of its own: they are there or represented. -/
structure Gains (c d : Collected) (adds : Entity → Prop) : Prop where
  more : ∀ x ∈ c.entities, x ∈ d.entities
  represents : ∀ x, adds x → d.Represents x
  only : ∀ x ∈ d.entities, x ∈ c.entities ∨ adds x
  keys : (c.entities.map Entity.key?).Nodup → (d.entities.map Entity.key?).Nodup

/-- Only the entities count. -/
theorem Gains.congr {c' d' : Collected} {adds : Entity → Prop} (gains : c.Gains d adds)
    (before : c'.entities = c.entities) (after : d'.entities = d.entities) :
    c'.Gains d' adds where
  more := by rw [before, after]; exact gains.more
  represents := by unfold Represents; rw [after]; exact gains.represents
  only := by rw [before, after]; exact gains.only
  keys := by rw [before, after]; exact gains.keys

theorem Gains.refl (c : Collected) : c.Gains c fun _ => False :=
  ⟨fun _ mem => mem, fun _ none => none.elim, fun _ mem => .inl mem, fun keys => keys⟩

theorem Gains.trans {adds adds' : Entity → Prop} (first : b.Gains c adds)
    (second : c.Gains d adds') : b.Gains d fun x => adds x ∨ adds' x where
  more x mem := second.more x (first.more x mem)
  represents := by
    rintro x (added | added)
    · obtain ⟨y, mem, key⟩ := first.represents x added
      exact ⟨y, second.more y mem, key⟩
    · exact second.represents x added
  only x mem := by
    rcases second.only x mem with old | added
    · exact (first.only x old).imp_right .inl
    · exact .inr (.inr added)
  keys keys := second.keys (first.keys keys)

theorem gains_insert (c : Collected) (identified : x.key? ≠ none) :
    c.Gains (c.insert x) (· = x) where
  more := (extends_insert c x).entities
  represents y same := by
    cases same
    exact represents_insert c identified
  only y mem := mem_of_mem_insert mem
  keys keys := nodup_insert keys identified

section Foldl

variable {α : Type} {step : Collected → α → Collected} {l : List α}

/-- What each step adds is added by all of them. -/
theorem gains_foldl {adds : α → Entity → Prop}
    (each : ∀ t ∈ l, ∀ d : Collected, d.Gains (step d t) (adds t)) (c : Collected) :
    c.Gains (l.foldl step c) fun x => ∃ t ∈ l, adds t x := by
  induction l generalizing c with
  | nil => simpa using Gains.refl c
  | cons t rest ih =>
    have first := each t List.mem_cons_self c
    have others := ih (fun s mem => each s (List.mem_cons_of_mem _ mem)) (step c t)
    simpa using first.trans others

/-- What each step notes is noted by all of them. -/
theorem mem_edges_foldl {notes : α → EntityKey × EntityKey → Prop}
    (each : ∀ t ∈ l, ∀ (d : Collected) edge,
      edge ∈ (step d t).edges ↔ edge ∈ d.edges ∨ notes t edge)
    {edge : EntityKey × EntityKey} :
    edge ∈ (l.foldl step c).edges ↔ edge ∈ c.edges ∨ ∃ t ∈ l, notes t edge := by
  induction l generalizing c with
  | nil => simp
  | cons t rest ih =>
    rw [List.foldl_cons, ih fun s mem => each s (List.mem_cons_of_mem _ mem),
      each t List.mem_cons_self, or_assoc]
    simp

end Foldl

/-- What a branch collected is added. -/
theorem gains_absorb (c : Collected) (identified : ∀ x ∈ d.entities, x.key? ≠ none) :
    c.Gains (c.absorb d) (· ∈ d.entities) := by
  have each : ∀ y ∈ d.entities, ∀ b : Collected, b.Gains (b.insert y) (· = y) :=
    fun y mem b => gains_insert b (identified y mem)
  have all := gains_foldl each c
  refine ⟨all.more, fun x mem => all.represents x ⟨x, mem, rfl⟩, fun x mem => ?_, all.keys⟩
  refine (all.only x mem).imp_right ?_
  rintro ⟨y, memY, rfl⟩
  exact memY

theorem mem_edges_absorb {edge : EntityKey × EntityKey} :
    edge ∈ (c.absorb d).edges ↔ edge ∈ c.edges ∨ edge ∈ d.edges := by
  have kept : edge ∈ (d.entities.foldl insert c).edges ↔ edge ∈ c.edges := by
    rw [@mem_edges_foldl _ _ _ _ (fun _ _ => False) fun x _ b edge => by simp [edges_insert]]
    simp
  show edge ∈ (d.entities.foldl insert c).edges ++ d.edges ↔ _
  rw [List.mem_append, kept]

end Collected

end GridRecords
