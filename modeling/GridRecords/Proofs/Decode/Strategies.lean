/-
# What a registry decodes by

A target is decoded by the strategy that is installed for it, and by the one that is derived for it
where none is installed (`Registry.strategy?`).  Asking for a strategy may install it, and leaves
all strategies as they were (`answers_decodesBy`).  A registry is asked for nothing but strategies,
so whatever it decodes settles: the result depends on its strategies only, and not on what it was
used for before (`Answers.settles_decodeWithin`, `Answers.settles_decodeRow`).
-/
import GridRecords.Batch
import GridRecords.Proofs.Decode.ComesTo

namespace GridRecords

open Decoding

/-! ## Installed and derived strategies -/

namespace Registry

/-- The strategy that a target is decoded by. -/
def strategy? (r : Registry) (target : Target) : Option Strategy :=
  (r.find? target).or (r.derive? target)

/-- Every target is decoded by its given strategy, whether or not it is installed yet. -/
def DecodesBy (strategies : Target → Option Strategy) (r : Registry) : Prop :=
  ∀ target, r.strategy? target = strategies target

theorem decodesBy_strategy? (r : Registry) : r.DecodesBy r.strategy? := fun _ => rfl

/-- A strategy is found again after another target was installed. -/
theorem find?_install (r : Registry) (target other : Target) (strategy : Strategy)
    (fresh : r.find? target = none) :
    (r.install target strategy).find? other =
      (r.find? other).or (if other = target then some strategy else none) := by
  unfold install isRegistered
  rw [fresh]
  show (r.entries ++ [(target, strategy)]).lookup other = _
  rw [List.lookup_append]
  congr 1
  by_cases eq : other = target
  · rw [eq, if_pos rfl, List.lookup_cons_self]
  · have ne : (other == target) = false := by simp [eq]
    rw [if_neg eq, List.lookup_cons, ne]
    rfl

/-- Installing changes nothing about what would be derived. -/
theorem derive?_install (r : Registry) (target other : Target) (strategy : Strategy) :
    (r.install target strategy).derive? other = r.derive? other := by
  unfold install
  split <;> rfl

/-- Installing what would be derived anyway changes no strategy. -/
theorem strategy?_install {r : Registry} {target : Target} {strategy : Strategy}
    (fresh : r.find? target = none) (derived : r.derive? target = some strategy)
    (other : Target) : (r.install target strategy).strategy? other = r.strategy? other := by
  unfold strategy?
  rw [find?_install r target other strategy fresh, derive?_install, Option.or_assoc]
  by_cases eq : other = target
  · subst eq
    rw [if_pos rfl, derived]
    rfl
  · rw [if_neg eq]
    rfl

theorem resolve_of_find? {r : Registry} {target : Target} {strategy : Strategy}
    (h : r.find? target = some strategy) : resolve target r = (.ok strategy, r) := by
  unfold resolve
  have asked : (get : Decoding Registry) r = (.ok r, r) := rfl
  rw [bind_of_ok _ asked, h]
  rfl

theorem resolve_of_derive? {r : Registry} {target : Target} {strategy : Strategy}
    (fresh : r.find? target = none) (h : r.derive? target = some strategy) :
    resolve target r = (.ok strategy, r.install target strategy) := by
  unfold resolve
  have asked : (get : Decoding Registry) r = (.ok r, r) := rfl
  rw [bind_of_ok _ asked, fresh, h]
  rfl

theorem resolve_of_missing {r : Registry} {target : Target} (fresh : r.find? target = none)
    (h : r.derive? target = none) :
    resolve target r = (.error (.missingStrategy target.text), r) := by
  unfold resolve
  have asked : (get : Decoding Registry) r = (.ok r, r) := rfl
  rw [bind_of_ok _ asked, fresh, h]
  rfl

/-- What asking for a strategy comes to. -/
def answer (strategies : Target → Option Strategy) (target : Target) : Except Failure Strategy :=
  match strategies target with
  | some strategy => .ok strategy
  | none => .error (.missingStrategy target.text)

variable {strategies : Target → Option Strategy}

/-- Asking for a strategy gives the given one, in all registries with a property. -/
def Answers (strategies : Target → Option Strategy) (P : Registry → Prop) : Prop :=
  ∀ target, (resolve target).ComesTo P (answer strategies target)

/-- **Asking for a strategy gives the strategy of the target and changes none.** -/
theorem answers_decodesBy (strategies : Target → Option Strategy) :
    Answers strategies (DecodesBy strategies) := by
  intro target r hr
  unfold answer
  rw [← hr target]
  unfold strategy?
  cases found : r.find? target with
  | some strategy => exact ⟨r, resolve_of_find? found, hr⟩
  | none =>
      cases derived : r.derive? target with
      | some strategy =>
          refine ⟨_, resolve_of_derive? found derived, fun other => ?_⟩
          rw [strategy?_install found derived other]
          exact hr other
      | none => exact ⟨r, resolve_of_missing found derived, hr⟩

theorem Answers.resolve_of_some {P : Registry → Prop} (asks : Answers strategies P)
    {target : Target} {strategy : Strategy} (h : strategies target = some strategy) :
    (resolve target).ComesTo P (.ok strategy) := by
  have asked := asks target
  unfold answer at asked
  rw [h] at asked
  exact asked

end Registry

/-! ## New registries -/

/-- Fields are read by the leaf strategies for a policy on boolean text, entities by their
schemas. -/
def schemaStrategies (schemas : EntityKind → Option Schema) (policy : BooleanPolicy) :
    Target → Option Strategy
  | .leaf kind => some (.leaf kind policy)
  | .entity kind => (schemas kind).map .composite

namespace Registry

variable {schemas : EntityKind → Option Schema} {policy : BooleanPolicy}

theorem find?_leaf_new (kind : LeafKind) :
    (Registry.new schemas policy).find? (.leaf kind) = some (.leaf kind policy) := by
  unfold find? new
  have known := LeafKind.mem_all kind
  generalize LeafKind.all = kinds at known
  induction kinds with
  | nil => cases known
  | cons k rest ih =>
      rw [List.map_cons, List.lookup_cons]
      by_cases eq : kind = k
      · subst eq; simp
      · have ne : (Target.leaf kind == Target.leaf k) = false := by simp [eq]
        rw [ne]
        exact ih ((List.mem_cons.1 known).resolve_left eq)

theorem find?_entity_new (kind : EntityKind) :
    (Registry.new schemas policy).find? (.entity kind) = none := by
  unfold find? new
  generalize LeafKind.all = kinds
  induction kinds with
  | nil => rfl
  | cons k rest ih => rw [List.map_cons, List.lookup_cons]; exact ih

theorem decodesBy_new :
    (Registry.new schemas policy).DecodesBy (schemaStrategies schemas policy) := by
  intro target
  unfold strategy?
  cases target with
  | leaf kind => rw [find?_leaf_new]; rfl
  | entity kind => rw [find?_entity_new]; rfl

end Registry

/-! ## Decoding settles -/

section Settling

variable {P : Registry → Prop} {E : Failure → Prop}

theorem settles_argument (p : Parameter) {nested : NestedDecoder}
    (field : ∀ leaf raw, p.source = .direct leaf → (Registry.decodeField leaf raw).Settles P E)
    (inner : ∀ target fields, p.source = .nested target fields →
      ∀ r c, (nested target r c).Settles P E)
    (r : FieldRecord) (c : Context) : (p.argument nested r c).Settles P E := by
  unfold Parameter.argument
  cases c.get? p.name with
  | some value => exact .pure value
  | none =>
      cases source : p.source with
      | direct leaf =>
          cases r.get? p.name with
          | some raw => exact field leaf raw source
          | none => exact .pure Value.null
      | nested target fields =>
          by_cases absent : ((r.restrict fields).isEmpty && (c.restrict fields).isEmpty) = true
          · simp only [absent, ↓reduceIte]
            exact .pure Value.null
          · simp only [absent]
            exact inner target fields source _ _
      | reference _ => exact .pure Value.null

/-- Building an entity settles where its arguments do.  It fails as one of its arguments does, or
because no signature fits, or because the builder refuses the arguments. -/
theorem settles_construct (s : Schema) {nested : NestedDecoder} {r : FieldRecord} {c : Context}
    (choice : ∀ f, s.select r c = .error f → E f) (refusal : ∀ a f, E (s.fault a f))
    (arguments : ∀ p ∈ s.parameters, (p.argument nested r c).Settles P E) :
    (s.construct nested r c).Settles P E := by
  refine (Settles.lift choice).bind fun signature => ?_
  have values : (s.arguments signature nested r c).Settles P E := by
    refine Settles.map Arguments.mk (.mapM _ fun p mem => ?_)
    by_cases binds : signature.binds p.name = true
    · simp only [binds, ↓reduceIte]
      exact (arguments p mem).map (Prod.mk p.name)
    · simp only [binds]
      exact (Settles.pure Value.null).map (Prod.mk p.name)
  refine values.bind fun arguments => .lift fun f h => ?_
  cases built : signature.build arguments with
  | ok e =>
      rw [built] at h
      cases h
  | error fault =>
      rw [built] at h
      cases h
      exact refusal arguments fault

end Settling

namespace Registry

/-- Any failure at all. -/
abbrev anyFailure : Failure → Prop := fun _ => True

namespace Answers

variable {strategies : Target → Option Strategy} {P : Registry → Prop} (asks : Answers strategies P)

include asks

theorem settles_resolve (target : Target) : (resolve target).Settles P anyFailure :=
  ⟨_, asks target, fun _ _ => trivial⟩

theorem settles_decodeField (kind : LeafKind) (raw : String) :
    (decodeField kind raw).Settles P anyFailure := by
  refine (asks.settles_resolve (.leaf kind)).bind fun strategy => ?_
  cases strategy with
  | leaf kind policy => exact .lift fun _ _ => trivial
  | composite _ => exact .throw trivial

theorem settles_schemaFor (kind : EntityKind) : (schemaFor kind).Settles P anyFailure := by
  refine (asks.settles_resolve (.entity kind)).bind fun strategy => ?_
  cases strategy with
  | leaf _ _ => exact .throw trivial
  | composite schema => exact .pure schema

/-- What an entity is built to depends on the strategies only. -/
theorem settles_construct (schema : Schema) {nested : NestedDecoder}
    (inner : ∀ kind r c, (nested kind r c).Settles P anyFailure) (r : FieldRecord) (c : Context) :
    (schema.construct nested r c).Settles P anyFailure := by
  refine GridRecords.settles_construct schema (fun _ _ => trivial) (fun _ _ => trivial) ?_
  intro p _
  exact settles_argument p (fun leaf raw _ => asks.settles_decodeField leaf raw)
    (fun target _ _ => inner target) r c

/-- **What a record is decoded to depends on the strategies only.** -/
theorem settles_decodeWithin (depth : Nat) (kind : EntityKind) (r : FieldRecord) (c : Context) :
    (decodeWithin depth kind r c).Settles P anyFailure := by
  induction depth generalizing kind r c with
  | zero => exact .throw trivial
  | succ depth ih =>
      unfold decodeWithin
      cases kind.known? c with
      | some e => exact .pure (Value.entity e)
      | none =>
          refine (asks.settles_resolve (.entity kind)).bind fun strategy => ?_
          cases strategy with
          | leaf leaf policy => exact .lift fun _ _ => trivial
          | composite schema => exact (asks.settles_construct schema ih r c).map Value.entity

theorem settles_decodeNested (kind : EntityKind) (r : FieldRecord) (c : Context) :
    (decodeNested kind r c).Settles P anyFailure :=
  asks.settles_decodeWithin _ kind r c

theorem settles_decode (target : Target) (r : FieldRecord) (c : Context) :
    (decode target r c).Settles P anyFailure := by
  cases target with
  | entity kind => exact asks.settles_decodeNested kind r c
  | leaf kind =>
      refine (asks.settles_resolve (.leaf kind)).bind fun strategy => ?_
      cases strategy with
      | leaf leaf policy => exact .lift fun _ _ => trivial
      | composite schema =>
          exact (asks.settles_construct schema asks.settles_decodeNested r c).map Value.entity

theorem settles_decodeEntity (kind : EntityKind) (r : FieldRecord) (c : Context) :
    (decodeEntity kind r c).Settles P anyFailure := by
  refine (asks.settles_decode (.entity kind) r c).bind fun value => ?_
  cases value with
  | entity e => exact .pure e
  | _ => exact .throw trivial

/-- What a row is decoded to depends on the strategies only. -/
theorem settles_decodeRow (i : ReferenceIndex) (s : Schema) (kind : EntityKind)
    (r : FieldRecord) : (i.decodeRow s kind r).Settles P anyFailure := by
  refine Settles.bind (.lift fun _ _ => trivial) fun resolution => ?_
  exact (asks.settles_decodeEntity kind r resolution.context).bind fun e => .pure _

end Answers

end Registry

end GridRecords
