/-
# Walks by any access

By an access an entity leads to what its relations yield, if its kind has relations to follow.
A walk from an entity adds only what the entity leads to, and fails only as something that is
reached fails.  If it does not fail, all that it added was read: what that leads to is collected or
represented, and noted (`walked_of_walk`).

A walk that ended is the same with more depth (`walk_mono`) and by an access that agrees on what is
reached (`walk_congr`).  It ends, on cycles as well, if its depth exceeds the number of identities
that are missing: an entity is followed when it was missing before (`walk_ends`).
-/
import GridRecords.Proofs.Extraction.Collected
import Mathlib.Data.Finset.Card
import Mathlib.Logic.Relation

namespace GridRecords

variable {a b : RelationAccess} {e x y child : Entity} {c d after : Collected} {f : Failure}
  {outcome : Except Failure PUnit}

/-! ## What an access leads to -/

namespace RelationAccess

/-- The persistable entities that the relations of an entity yield, none if reading fails. -/
def related (a : RelationAccess) (e : Entity) : List Entity :=
  match a.read e with
  | .ok relations => relations.flatMap Relation.persistable
  | .error _ => []

/-- A relation of an entity is followed to another one. -/
def Leads (a : RelationAccess) (e x : Entity) : Prop :=
  a.follows e.kind = true ∧ x ∈ a.related e

/-- An entity leads to another one through any number of relations. -/
def Reaches (a : RelationAccess) : Entity → Entity → Prop := Relation.ReflTransGen a.Leads

/-- An entity leads to another one through one or more relations. -/
def DependsOn (a : RelationAccess) : Entity → Entity → Prop := Relation.TransGen a.Leads

/-- The relations of an entity are to be followed, and cannot be read. -/
def FailsAt (a : RelationAccess) (e : Entity) (f : Failure) : Prop :=
  a.follows e.kind = true ∧ a.direct e = .error f

/-- Two accesses agree on all that an entity leads to: on its kinds, and on its relations where
they are followed. -/
def AgreesFrom (a b : RelationAccess) (e : Entity) : Prop :=
  ∀ x, a.Reaches e x →
    b.kinds x.kind = a.kinds x.kind ∧ (a.follows x.kind = true → b.read x = a.read x)

/-- What is found directly is what the relations yield. -/
theorem eq_related_of_direct {found : List Entity} (h : a.direct e = .ok found) :
    found = a.related e := by
  unfold direct at h
  unfold related
  cases read : a.read e with
  | error f => rw [read] at h; cases h
  | ok relations =>
    rw [read] at h
    simp only [bind, Except.bind, pure, Except.pure] at h
    split at h
    · split at h <;> cases h
      rfl
    · cases h
      rfl

/-- What is found directly comes from the relations of a kind and those of the entity only. -/
theorem direct_congr (kinds : b.kinds e.kind = a.kinds e.kind) (read : b.read e = a.read e) :
    b.direct e = a.direct e := by
  unfold RelationAccess.direct acceptEmpty
  rw [kinds, read]

theorem AgreesFrom.reaches (agrees : a.AgreesFrom b e) (h : a.Reaches e x) : a.AgreesFrom b x :=
  fun y reached => agrees y (h.trans reached)

theorem AgreesFrom.follows (agrees : a.AgreesFrom b e) (h : a.Reaches e x) :
    b.follows x.kind = a.follows x.kind := by
  unfold RelationAccess.follows
  rw [(agrees x h).1]

theorem AgreesFrom.direct (agrees : a.AgreesFrom b e) (h : a.Reaches e x)
    (followed : a.follows x.kind = true) : b.direct x = a.direct x :=
  direct_congr (agrees x h).1 ((agrees x h).2 followed)

theorem AgreesFrom.leads_iff (agrees : a.AgreesFrom b e) (h : a.Reaches e x) :
    b.Leads x y ↔ a.Leads x y := by
  unfold Leads related
  rw [agrees.follows h]
  refine and_congr_right fun followed => ?_
  rw [(agrees x h).2 followed]

theorem AgreesFrom.reaches_iff (agrees : a.AgreesFrom b e) : b.Reaches e x ↔ a.Reaches e x := by
  constructor <;> intro h
  · induction h with
    | refl => exact .refl
    | tail _ last ih => exact ih.tail ((agrees.leads_iff ih).1 last)
  · induction h with
    | refl => exact .refl
    | tail first last ih => exact ih.tail ((agrees.leads_iff first).2 last)

theorem AgreesFrom.failsAt_iff (agrees : a.AgreesFrom b e) (h : a.Reaches e x) :
    b.FailsAt x f ↔ a.FailsAt x f := by
  unfold FailsAt
  rw [agrees.follows h]
  refine and_congr_right fun followed => ?_
  rw [agrees.direct h followed]

end RelationAccess

/-! ## Walks over lists -/

section ForM

variable {α : Type} {p q : α → Walk PUnit} {l : List α}

theorem forM_cons_eq (p : α → Walk PUnit) (t : α) (rest : List α) (c : Collected) :
    (t :: rest).forM p c = (p t c).bind fun r =>
      match r with
      | (.ok _, middle) => rest.forM p middle
      | (.error f, middle) => some (.error f, middle) := by
  show (p t c).bind _ = _
  congr 1
  funext r
  obtain ⟨outcome, middle⟩ := r
  cases outcome <;> rfl

theorem forM_congr (same : ∀ t ∈ l, p t = q t) : l.forM p = l.forM q := by
  induction l with
  | nil => rfl
  | cons t rest ih =>
    show (p t >>= fun _ => rest.forM p) = (q t >>= fun _ => rest.forM q)
    rw [same t List.mem_cons_self, ih fun s mem => same s (List.mem_cons_of_mem _ mem)]

/-- What each walk keeps, from what was collected before it to what was collected after it, is kept
one after the other. -/
theorem forM_keeps {R : Collected → Collected → Prop} (refl : ∀ c, R c c)
    (trans : ∀ {b c d}, R b c → R c d → R b d)
    (each : ∀ t ∈ l, ∀ c outcome after, p t c = some (outcome, after) → R c after)
    (h : l.forM p c = some (outcome, after)) : R c after := by
  induction l generalizing c with
  | nil =>
    cases h
    exact refl _
  | cons t rest ih =>
    rw [forM_cons_eq] at h
    obtain ⟨⟨reply, middle⟩, first, others⟩ := Option.bind_eq_some_iff.1 h
    have kept := each t List.mem_cons_self c reply middle first
    cases reply with
    | error f =>
      cases others
      exact kept
    | ok _ => exact trans kept (ih (fun s mem => each s (List.mem_cons_of_mem _ mem)) others)

/-- Where each walk ends as another one does, one after the other they do as well.  This may rest on
what holds of all that was collected, if it held already of what was collected earlier. -/
theorem forM_mono_of {P : Collected → Prop}
    (earlier : ∀ t ∈ l, ∀ c outcome after, p t c = some (outcome, after) → P after → P c)
    (ends : ∀ t ∈ l, ∀ c outcome after, p t c = some (outcome, after) → P after →
      q t c = some (outcome, after))
    (h : l.forM p c = some (outcome, after)) (holds : P after) :
    l.forM q c = some (outcome, after) := by
  induction l generalizing c with
  | nil => exact h
  | cons t rest ih =>
    have earlierRest := fun s mem => earlier s (List.mem_cons_of_mem _ mem)
    rw [forM_cons_eq] at h ⊢
    obtain ⟨⟨reply, middle⟩, first, others⟩ := Option.bind_eq_some_iff.1 h
    cases reply with
    | error f =>
      cases others
      rw [ends t List.mem_cons_self c _ _ first holds]
      rfl
    | ok _ =>
      have before : P middle := forM_keeps (R := fun c d => P d → P c) (fun _ held => held)
        (fun early late held => early (late held)) earlierRest others holds
      rw [ends t List.mem_cons_self c _ _ first before]
      exact ih earlierRest (fun s mem => ends s (List.mem_cons_of_mem _ mem)) others

theorem forM_mono (ends : ∀ t ∈ l, ∀ c r, p t c = some r → q t c = some r)
    {r : Except Failure PUnit × Collected} (h : l.forM p c = some r) : l.forM q c = some r :=
  forM_mono_of (P := fun _ => True) (fun _ _ _ _ _ _ _ => trivial)
    (fun t mem c outcome after run _ => ends t mem c (outcome, after) run) h trivial

end ForM

/-! ## Two walks from an entity -/

namespace RelationAccess

/-- A relation that was followed is followed alike where what lies deeper is walked alike. -/
theorem follow_mono {deeper deeper' : Entity → Walk PUnit}
    {r : Except Failure PUnit × Collected} (kinds : b.follows child.kind = a.follows child.kind)
    (ends : ∀ c, deeper child c = some r → deeper' child c = some r)
    (h : a.follow deeper e child c = some r) : b.follow deeper' e child c = some r := by
  unfold follow at h ⊢
  rw [kinds]
  by_cases held : (c.connect child e).holds child = true
  · rw [if_pos held] at h ⊢
    exact h
  · rw [if_neg held] at h ⊢
    by_cases followed : a.follows child.kind = true
    · rw [if_pos followed] at h ⊢
      exact ends _ h
    · rw [if_neg followed] at h ⊢
      exact h

theorem follow_congr {deeper deeper' : Entity → Walk PUnit}
    (kinds : b.follows child.kind = a.follows child.kind)
    (same : a.follows child.kind = true → deeper' child = deeper child) :
    b.follow deeper' e child = a.follow deeper e child := by
  funext c
  unfold follow
  rw [kinds]
  by_cases followed : a.follows child.kind = true
  · rw [same followed]
  · simp only [if_neg followed]

/-- **A walk that ended is the same with more depth.** -/
theorem walk_mono {depth depth' : Nat} (more : depth ≤ depth')
    {r : Except Failure PUnit × Collected} (h : a.walk depth e c = some r) :
    a.walk depth' e c = some r := by
  induction depth generalizing depth' e c r with
  | zero => cases h
  | succ depth ih =>
    obtain ⟨depth', rfl⟩ := Nat.exists_eq_succ_of_ne_zero (show depth' ≠ 0 by omega)
    simp only [walk] at h ⊢
    cases direct : a.direct e with
    | error f => rwa [direct] at h
    | ok children =>
      rw [direct] at h
      exact forM_mono (fun child _ c r =>
        follow_mono rfl fun c => ih (Nat.le_of_succ_le_succ more)) h

/-- **What is not reached does not change a walk.** -/
theorem walk_congr (agrees : a.AgreesFrom b e) (followed : a.follows e.kind = true)
    (depth : Nat) : b.walk depth e = a.walk depth e := by
  induction depth generalizing e with
  | zero => rfl
  | succ depth ih =>
    funext c
    simp only [walk]
    rw [agrees.direct .refl followed]
    cases direct : a.direct e with
    | error f => rfl
    | ok children =>
      refine congrFun (forM_congr fun child mem => ?_) _
      rw [eq_related_of_direct direct] at mem
      have reached : a.Reaches e child := .single ⟨followed, mem⟩
      exact follow_congr (agrees.follows reached) (ih (agrees.reaches reached))

/-! ## What a walk leaves -/

/-- An entity was met as a relation of another one: it was collected, or would not be because it is
held already, and the dependency was noted if both have keys. -/
def Met (c : Collected) (x e : Entity) : Prop :=
  (x ∈ c.entities ∨ c.holds x = true) ∧ (x.key? ≠ none → e.key? ≠ none → c.Notes x e)

/-- An entity was read: where there was something to follow, all that it leads to was met. -/
def HasRead (a : RelationAccess) (c : Collected) (e : Entity) : Prop :=
  a.follows e.kind = true → ∃ children, a.direct e = .ok children ∧ ∀ x ∈ children, Met c x e

/-- An entity was met as a relation of a start, or of what was collected. -/
def Stems (a : RelationAccess) (c : Collected) (x start : Entity) : Prop :=
  ∃ p, (p = start ∨ p ∈ c.entities) ∧ a.Leads p x

/-- What a walk from an entity leaves.  It adds only what the entity leads to, each key once, and
fails only as something that is reached fails.  Else it has read all that it added. -/
structure Walked (a : RelationAccess) (c : Collected) (e : Entity)
    (outcome : Except Failure PUnit) (after : Collected) : Prop where
  more : c.Extends after
  found : ∀ x ∈ after.entities, x ∈ c.entities ∨ a.DependsOn e x
  stems : ∀ x ∈ after.entities, x ∈ c.entities ∨ a.Stems after x e
  edges : ∀ edge ∈ after.edges, edge ∈ c.edges ∨
    ∃ x y, a.Reaches e y ∧ a.Leads y x ∧ x.key? = some edge.1 ∧ y.key? = some edge.2
  keys : (∀ x, a.DependsOn e x → x.key? ≠ none) → (c.entities.map Entity.key?).Nodup →
    (after.entities.map Entity.key?).Nodup
  failed : ∀ f, outcome = .error f → ∃ y, a.Reaches e y ∧ a.FailsAt y f
  read : outcome = .ok ⟨⟩ → ∀ x ∈ after.entities, x ∈ c.entities ∨ a.HasRead after x

theorem Met.mono (h : Met c x e) (more : c.Extends d) : Met d x e := by
  refine ⟨h.1.imp (more.entities x) fun held => ?_, fun hx he => (h.2 hx he).embed more.embeds⟩
  obtain ⟨y, mem, same⟩ := List.any_eq_true.1 held
  exact List.any_eq_true.2 ⟨y, more.entities y mem, same⟩

theorem HasRead.mono (h : a.HasRead c x) (more : c.Extends d) : a.HasRead d x := by
  intro followed
  obtain ⟨children, direct, met⟩ := h followed
  exact ⟨children, direct, fun y mem => (met y mem).mono more⟩

theorem Stems.mono (h : a.Stems c x e) (more : c.Extends d) : a.Stems d x e := by
  obtain ⟨p, of, leads⟩ := h
  exact ⟨p, of.imp_right (more.entities p), leads⟩

namespace Walked

theorem refl (c : Collected) (e : Entity) : a.Walked c e (.ok ⟨⟩) c where
  more := .refl c
  found _ mem := .inl mem
  stems _ mem := .inl mem
  edges _ mem := .inl mem
  keys _ keys := keys
  failed f error := by cases error
  read _ _ mem := .inl mem

/-- One walk after the other. -/
theorem trans {middle : Collected} (first : a.Walked c e (.ok ⟨⟩) middle)
    (second : a.Walked middle e outcome after) : a.Walked c e outcome after where
  more := first.more.trans second.more
  found x mem := (second.found x mem).elim (first.found x) .inr
  stems x mem := by
    rcases second.stems x mem with old | stems
    · exact (first.stems x old).imp_right fun stems => stems.mono second.more
    · exact .inr stems
  edges edge mem := (second.edges edge mem).elim (first.edges edge) .inr
  keys identified keys := second.keys identified (first.keys identified keys)
  failed := second.failed
  read ok x mem := by
    rcases second.read ok x mem with old | read
    · exact (first.read rfl x old).imp_right fun read => read.mono second.more
    · exact .inr read

/-- A relation is noted. -/
theorem connect (reached : a.Reaches e y) (leads : a.Leads y x) :
    a.Walked c e (.ok ⟨⟩) (c.connect x y) where
  more := Collected.extends_connect c x y
  found z mem := .inl (by rwa [Collected.entities_connect] at mem)
  stems z mem := .inl (by rwa [Collected.entities_connect] at mem)
  edges edge mem := (Collected.mem_edges_connect.1 mem).imp_right fun ⟨keyX, keyY⟩ =>
    ⟨x, y, reached, leads, keyX, keyY⟩
  keys _ keys := by rwa [Collected.entities_connect]
  failed f error := by cases error
  read _ z mem := .inl (by rwa [Collected.entities_connect] at mem)

/-- A child is collected, and the walk goes on from there. -/
theorem descend (leads : a.Leads e child) (new : ¬ c.holds child = true)
    (walked : a.Walked (c.insert child) child outcome after)
    (read : outcome = .ok ⟨⟩ → a.HasRead after child) : a.Walked c e outcome after where
  more := (Collected.extends_insert c child).trans walked.more
  found x mem := by
    rcases walked.found x mem with old | depends
    · rcases Collected.mem_of_mem_insert old with old | rfl
      · exact .inl old
      · exact .inr (.single leads)
    · exact .inr (.head leads depends)
  stems x mem := by
    rcases walked.stems x mem with old | ⟨p, of, leadsX⟩
    · rcases Collected.mem_of_mem_insert old with old | rfl
      · exact .inl old
      · exact .inr ⟨e, .inl rfl, leads⟩
    · -- what stems from the child stems from what was collected
      refine .inr ⟨p, .inr ?_, leadsX⟩
      rcases of with rfl | memP
      · exact walked.more.entities p (Collected.mem_insert_self new)
      · exact memP
  edges edge mem := by
    rcases walked.edges edge mem with old | ⟨x, y, reached, relation⟩
    · rw [Collected.edges_insert] at old
      exact .inl old
    · exact .inr ⟨x, y, .head leads reached, relation⟩
  keys identified keys := walked.keys (fun x depends => identified x (.head leads depends))
    (Collected.nodup_insert keys (identified child (.single leads)))
  failed f error := by
    obtain ⟨y, reached, fails⟩ := walked.failed f error
    exact ⟨y, .head leads reached, fails⟩
  read ok x mem := by
    rcases walked.read ok x mem with old | readX
    · rcases Collected.mem_of_mem_insert old with old | rfl
      · exact .inl old
      · exact .inr (read ok)
    · exact .inr readX

/-- A walk that cannot read its start ends there. -/
theorem of_failsAt (fails : a.FailsAt e f) : a.Walked c e (.error f) c where
  more := .refl c
  found _ mem := .inl mem
  stems _ mem := .inl mem
  edges _ mem := .inl mem
  keys _ keys := keys
  failed g error := by
    cases error
    exact ⟨e, .refl, fails⟩
  read ok := by cases ok

/-- What was visited is no part of what a walk leaves. -/
theorem of_visit (walked : a.Walked (c.visit y) e outcome after) : a.Walked c e outcome after :=
  ⟨⟨walked.more.entities, walked.more.edges⟩, walked.found, walked.stems, walked.edges,
    walked.keys, walked.failed, walked.read⟩

end Walked

/-- Following a relation to a child leaves the child met, and read if it is new. -/
theorem walked_of_follow {deeper : Entity → Walk PUnit} (leads : a.Leads e child)
    (below : ∀ d outcome after, a.follows child.kind = true →
      deeper child d = some (outcome, after) →
      a.Walked d child outcome after ∧ (outcome = .ok ⟨⟩ → a.HasRead after child))
    (h : a.follow deeper e child c = some (outcome, after)) :
    a.Walked c e outcome after ∧ (outcome = .ok ⟨⟩ → Met after child e) := by
  have linked : a.Walked c e (.ok ⟨⟩) (c.connect child e) := .connect .refl leads
  have noted := Collected.notes_connect c (x := child) (e := e)
  unfold follow at h
  by_cases held : (c.connect child e).holds child = true
  · rw [if_pos held] at h
    cases h
    exact ⟨linked, fun _ => ⟨.inr held, noted⟩⟩
  rw [if_neg held] at h
  -- the child is new
  have deepened : a.Walked ((c.connect child e).insert child) child outcome after ∧
      (outcome = .ok ⟨⟩ → a.HasRead after child) := by
    by_cases followed : a.follows child.kind = true
    · rw [if_pos followed] at h
      exact below _ outcome after followed h
    · rw [if_neg followed] at h
      cases h
      exact ⟨.refl _ child, fun _ kinds => absurd kinds followed⟩
  obtain ⟨walked, read⟩ := deepened
  refine ⟨linked.trans (.descend leads held walked read), fun _ => ⟨.inl ?_, fun hx he => ?_⟩⟩
  · exact walked.more.entities child (Collected.mem_insert_self held)
  · exact (noted hx he).embed ((Collected.extends_insert _ child).trans walked.more).embeds

/-- Following several relations leaves each child met. -/
theorem walked_of_forM {deeper : Entity → Walk PUnit} {children : List Entity}
    (leads : ∀ x ∈ children, a.Leads e x)
    (below : ∀ x ∈ children, ∀ d outcome after, a.follows x.kind = true →
      deeper x d = some (outcome, after) →
      a.Walked d x outcome after ∧ (outcome = .ok ⟨⟩ → a.HasRead after x))
    (h : children.forM (a.follow deeper e) c = some (outcome, after)) :
    a.Walked c e outcome after ∧ (outcome = .ok ⟨⟩ → ∀ x ∈ children, Met after x e) := by
  induction children generalizing c with
  | nil =>
    cases h
    exact ⟨.refl _ e, fun _ x mem => absurd mem List.not_mem_nil⟩
  | cons child rest ih =>
    rw [forM_cons_eq] at h
    obtain ⟨⟨reply, middle⟩, step, others⟩ := Option.bind_eq_some_iff.1 h
    obtain ⟨first, met⟩ := walked_of_follow (leads child List.mem_cons_self)
      (below child List.mem_cons_self) step
    cases reply with
    | error f =>
      cases others
      exact ⟨first, fun ok => by cases ok⟩
    | ok _ =>
      obtain ⟨second, all⟩ := ih (fun x mem => leads x (List.mem_cons_of_mem _ mem))
        (fun x mem => below x (List.mem_cons_of_mem _ mem)) others
      refine ⟨first.trans second, fun ok x mem => ?_⟩
      rcases List.mem_cons.1 mem with rfl | mem
      · exact (met rfl).mono second.more
      · exact all ok x mem

/-- **A walk that does not fail has read all that it added.** -/
theorem walked_of_walk {depth : Nat} (followed : a.follows e.kind = true)
    (h : a.walk depth e c = some (outcome, after)) :
    a.Walked c e outcome after ∧ (outcome = .ok ⟨⟩ → a.HasRead after e) := by
  induction depth generalizing e c outcome after with
  | zero => cases h
  | succ depth ih =>
    simp only [walk] at h
    cases direct : a.direct e with
    | error f =>
      rw [direct] at h
      cases h
      exact ⟨.of_visit (.of_failsAt ⟨followed, direct⟩), fun ok => by cases ok⟩
    | ok children =>
      rw [direct] at h
      have leads : ∀ x ∈ children, a.Leads e x := fun x mem =>
        ⟨followed, by rwa [← eq_related_of_direct direct]⟩
      obtain ⟨walked, met⟩ := walked_of_forM leads
        (fun x _ d outcome after followed walk => ih followed walk) h
      exact ⟨walked.of_visit, fun ok _ => ⟨children, direct, met ok⟩⟩

/-! ## Walks end -/

/-- How many identities were not collected yet. -/
def missing (identities : Finset EntityKey) (c : Collected) : Nat :=
  (identities.filter fun k => some k ∉ c.entities.map Entity.key?).card

variable {identities : Finset EntityKey}

theorem missing_le (more : ∀ x ∈ c.entities, x ∈ d.entities) :
    missing identities d ≤ missing identities c := by
  refine Finset.card_le_card fun k mem => ?_
  rw [Finset.mem_filter] at mem ⊢
  refine ⟨mem.1, fun old => mem.2 ?_⟩
  obtain ⟨x, held, key⟩ := List.mem_map.1 old
  exact List.mem_map.2 ⟨x, more x held, key⟩

/-- Collecting something new leaves fewer missing. -/
theorem missing_insert_lt {k : EntityKey} (key : x.key? = some k) (known : k ∈ identities)
    (new : ¬ c.holds x = true) : missing identities (c.insert x) < missing identities c := by
  have identified : x.key? ≠ none := by simp [key]
  refine Finset.card_lt_card ⟨fun l mem => ?_, fun all => ?_⟩
  · rw [Finset.mem_filter] at mem ⊢
    refine ⟨mem.1, fun old => mem.2 ?_⟩
    obtain ⟨y, held, keyY⟩ := List.mem_map.1 old
    exact List.mem_map.2 ⟨y, (Collected.extends_insert c x).entities y held, keyY⟩
  · -- the identity of what is new was missing, and is not any more
    have before : k ∈ identities.filter fun k => some k ∉ c.entities.map Entity.key? := by
      refine Finset.mem_filter.2 ⟨known, fun old => new ?_⟩
      obtain ⟨y, held, keyY⟩ := List.mem_map.1 old
      exact (Collected.holds_iff identified).2 ⟨y, held, keyY.trans key.symm⟩
    exact (Finset.mem_filter.1 (all before)).2
      (List.mem_map.2 ⟨x, Collected.mem_insert_self new, key⟩)

theorem follow_ends {depth : Nat} (known : ∃ k ∈ identities, child.key? = some k)
    (below : ∀ d, a.follows child.kind = true → missing identities d < depth →
      a.walk depth child d ≠ none)
    (enough : missing identities c ≤ depth) : a.follow (a.walk depth) e child c ≠ none := by
  unfold follow
  by_cases held : (c.connect child e).holds child = true
  · rw [if_pos held]
    exact Option.some_ne_none _
  · rw [if_neg held]
    by_cases followed : a.follows child.kind = true
    · rw [if_pos followed]
      obtain ⟨k, mem, key⟩ := known
      have linked : missing identities (c.connect child e) = missing identities c := by
        unfold missing
        rw [Collected.entities_connect]
      have less := missing_insert_lt key mem held
      exact below _ followed (by omega)
    · rw [if_neg followed]
      exact Option.some_ne_none _

/-- Relations are followed one after the other, and nothing becomes missing again. -/
theorem forM_ends {depth : Nat} {children : List Entity} (leads : ∀ x ∈ children, a.Leads e x)
    (known : ∀ x ∈ children, ∃ k ∈ identities, x.key? = some k)
    (below : ∀ x ∈ children, ∀ d, a.follows x.kind = true → missing identities d < depth →
      a.walk depth x d ≠ none)
    (enough : missing identities c ≤ depth) :
    children.forM (a.follow (a.walk depth) e) c ≠ none := by
  induction children generalizing c with
  | nil => exact Option.some_ne_none _
  | cons child rest ih =>
    rw [forM_cons_eq]
    obtain ⟨⟨reply, middle⟩, step⟩ := Option.ne_none_iff_exists'.1
      (follow_ends (known child List.mem_cons_self) (below child List.mem_cons_self) enough)
    rw [step]
    cases reply with
    | error f => exact Option.some_ne_none _
    | ok _ =>
      have walked := (walked_of_follow (leads child List.mem_cons_self)
        (fun d outcome after followed walk => walked_of_walk followed walk) step).1
      exact ih (fun x mem => leads x (List.mem_cons_of_mem _ mem))
        (fun x mem => known x (List.mem_cons_of_mem _ mem))
        (fun x mem => below x (List.mem_cons_of_mem _ mem))
        (Nat.le_trans (missing_le walked.more.entities) enough)

/-- **A walk ends if its depth exceeds the number of missing identities.** -/
theorem walk_ends {depth : Nat} (followed : a.follows e.kind = true)
    (known : ∀ x, a.DependsOn e x → ∃ k ∈ identities, x.key? = some k)
    (enough : missing identities c < depth) : a.walk depth e c ≠ none := by
  induction depth generalizing e c with
  | zero => omega
  | succ depth ih =>
    simp only [walk]
    cases direct : a.direct e with
    | error f => exact Option.some_ne_none _
    | ok children =>
      have leads : ∀ x ∈ children, a.Leads e x := fun x mem =>
        ⟨followed, by rwa [← eq_related_of_direct direct]⟩
      refine forM_ends leads (fun x mem => known x (.single (leads x mem))) ?_
        (Nat.le_of_lt_succ enough)
      intro x mem d followed
      exact ih followed fun y depends => known y (.head (leads x mem) depends)

end RelationAccess

end GridRecords
