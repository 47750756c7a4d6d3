/-
# Registries of the built-in schemas

A registry changes while it decodes: strategies are installed when they are first asked for.
What it decodes does not change.  `Registry.IsBuiltin` says that every strategy a registry holds
or would derive is the built-in one; `Decoding.Yields` says that a computation comes to one and
the same result in every such registry and leaves such a registry behind.

Results are put together step by step (`Decoding.Yields.bind`), and the three ways to ask a
registry for something yield what the built-in schemas say: `yields_decodeField`,
`yields_schemaFor` and `yields_prepare`.
-/
import GridRecords.Proofs.Decode.Strategies
import GridRecords.Schema.Builtin

namespace GridRecords

/-- The strategies of a registry, those it holds and those it would derive, are the built-in ones
for a policy on boolean text. -/
structure Registry.IsBuiltin (policy : BooleanPolicy) (r : Registry) : Prop where
  schemas : ∀ kind, r.schemas kind = some (Schema.builtin kind)
  leaf : ∀ kind, r.find? (.leaf kind) = some (.leaf kind policy)
  entity : ∀ kind strategy, r.find? (.entity kind) = some strategy →
    strategy = .composite (Schema.builtin kind)

/-- A computation comes to one result in all registries of the built-in schemas, and leaves such a
registry behind. -/
def Decoding.Yields {α : Type} (policy : BooleanPolicy) (x : Decoding α)
    (result : Except Failure α) : Prop :=
  ∀ r : Registry, r.IsBuiltin policy → ∃ after, x r = (result, after) ∧ after.IsBuiltin policy

namespace Decoding

variable {α β : Type} {policy : BooleanPolicy}

namespace Yields

/-- A result that does not depend on the registry. -/
theorem lift (result : Except Failure α) : (Decoding.lift result).Yields policy result :=
  ComesTo.lift result

theorem pure (a : α) : (Pure.pure a : Decoding α).Yields policy (.ok a) := ComesTo.pure a

theorem throw (e : Failure) : (MonadExcept.throw e : Decoding α).Yields policy (.error e) :=
  ComesTo.throw e

/-- Two steps yield the result of the second after that of the first. -/
theorem bind {x : Decoding α} {f : α → Decoding β} {result : Except Failure α}
    {next : α → Except Failure β} (hx : x.Yields policy result)
    (hf : ∀ a, result = .ok a → (f a).Yields policy (next a)) :
    (x >>= f).Yields policy (result >>= next) :=
  ComesTo.bind hx hf

/-- The second step may use what the first one is known to give. -/
theorem bind_ok {x : Decoding α} {f : α → Decoding β} {a : α} {result : Except Failure β}
    (hx : x.Yields policy (.ok a)) (hf : (f a).Yields policy result) :
    (x >>= f).Yields policy result :=
  ComesTo.bind_ok hx hf

theorem map {x : Decoding α} {result : Except Failure α} (f : α → β) (hx : x.Yields policy result) :
    (f <$> x).Yields policy (f <$> result) :=
  ComesTo.map f hx

/-- A failure given as a result. -/
theorem attempt {x : Decoding α} {result : Except Failure α} (hx : x.Yields policy result) :
    (Decoding.attempt x).Yields policy (.ok result) :=
  ComesTo.attempt hx

/-- A step for each member of a list. -/
theorem mapM {f : α → Decoding β} {result : α → Except Failure β} (xs : List α)
    (hf : ∀ x ∈ xs, (f x).Yields policy (result x)) :
    (xs.mapM f).Yields policy (xs.mapM result) :=
  ComesTo.mapM xs hf

/-- A step that succeeds for each member of a list. -/
theorem forM {f : α → Decoding PUnit} (xs : List α)
    (hf : ∀ x ∈ xs, (f x).Yields policy (.ok PUnit.unit)) :
    (xs.forM f).Yields policy (.ok PUnit.unit) :=
  ComesTo.forM xs hf

end Yields

end Decoding

/-! ## Asking a registry -/

namespace Registry

variable {policy : BooleanPolicy}

/-- The registry with nothing but the leaf strategies is one of the built-in schemas. -/
theorem isBuiltin_new (policy : BooleanPolicy) :
    (Registry.new (fun kind => some (Schema.builtin kind)) policy).IsBuiltin policy := by
  refine ⟨fun _ => rfl, find?_leaf_new, fun kind strategy h => ?_⟩
  rw [find?_entity_new] at h
  cases h

/-- A leaf kind is read by its own strategy. -/
theorem yields_resolve_leaf (kind : LeafKind) :
    (resolve (.leaf kind)).Yields policy (.ok (.leaf kind policy)) := by
  intro r hr
  exact ⟨r, resolve_of_find? (hr.leaf kind), hr⟩

/-- A kind of entities is built by its built-in schema, whether or not it was asked for before. -/
theorem yields_resolve_entity (kind : EntityKind) :
    (resolve (.entity kind)).Yields policy (.ok (.composite (Schema.builtin kind))) := by
  intro r hr
  cases h : r.find? (.entity kind) with
  | some strategy =>
      have eq := hr.entity kind strategy h
      subst eq
      exact ⟨r, resolve_of_find? h, hr⟩
  | none =>
      have derived : r.derive? (.entity kind) = some (.composite (Schema.builtin kind)) := by
        show (r.schemas kind).map Strategy.composite = _
        rw [hr.schemas kind]
        rfl
      refine ⟨_, resolve_of_derive? h derived, ⟨?_, fun leaf => ?_, fun other strategy found => ?_⟩⟩
      · intro other
        unfold install isRegistered
        rw [h]
        exact hr.schemas other
      · rw [find?_install r _ _ _ h, hr.leaf leaf]
        rfl
      · rw [find?_install r _ _ _ h] at found
        cases old : r.find? (.entity other) with
        | some s =>
            rw [old] at found
            cases found
            exact hr.entity other _ old
        | none =>
            rw [old] at found
            by_cases eq : Target.entity other = .entity kind
            · cases eq
              rw [if_pos rfl] at found
              cases found
              rfl
            · rw [if_neg eq] at found
              cases found

theorem yields_decodeField (kind : LeafKind) (raw : String) :
    (decodeField kind raw).Yields policy (kind.decode policy raw) :=
  (yields_resolve_leaf kind).bind_ok (.lift _)

theorem yields_schemaFor (kind : EntityKind) :
    (schemaFor kind).Yields policy (.ok (Schema.builtin kind)) :=
  (yields_resolve_entity kind).bind_ok (.pure _)

/-! ## Preparation -/

/-- No built-in schema has a defect. -/
theorem validate_builtin (kind : EntityKind) : (Schema.builtin kind).validate = .ok ⟨⟩ := by
  have sound : (Schema.builtin kind).defect? = none := by
    cases kind <;> decide +kernel
  unfold Schema.validate
  rw [sound]

theorem yields_prepareFields (schema : Schema) :
    (prepareFields schema).Yields policy (.ok PUnit.unit) := by
  refine Decoding.Yields.forM _ fun p _ => ?_
  cases p.source with
  | direct leaf => exact (yields_resolve_leaf leaf).map _
  | nested _ _ => exact Decoding.Yields.pure PUnit.unit
  | reference _ => exact Decoding.Yields.pure PUnit.unit

theorem yields_prepareFrom (fresh pending : List EntityKind) :
    (prepareFrom fresh pending).Yields policy (.ok PUnit.unit) := by
  induction fresh, pending using prepareFrom.induct with
  | case1 fresh =>
      unfold prepareFrom
      exact Decoding.Yields.pure PUnit.unit
  | case2 fresh kind pending known ih =>
      unfold prepareFrom
      rw [dif_pos known]
      refine (yields_schemaFor kind).bind_ok ?_
      rw [validate_builtin kind]
      refine (Decoding.Yields.lift (.ok PUnit.unit)).bind_ok ?_
      refine (yields_prepareFields _).bind_ok ?_
      exact ih _
  | case3 fresh kind pending unknown ih =>
      unfold prepareFrom
      rw [dif_neg unknown]
      exact ih

/-- Preparing succeeds for all kinds. -/
theorem yields_prepare (kinds : List EntityKind) : (prepare kinds).Yields policy (.ok PUnit.unit) :=
  yields_prepareFrom _ _

end Registry

end GridRecords
