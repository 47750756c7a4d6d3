/-
# What a computation on a registry comes to

A registry changes while it decodes, so a result could depend on what was decoded before.
`Decoding.ComesTo` says that it does not: in all registries with a property a computation comes to
one and the same result, and leaves a registry with that property behind.  `Decoding.Settles` says
that there is such a result, and that it is no failure but one of a certain sort.

Both are put together step by step (`ComesTo.bind`, `Settles.bind`) and along lists
(`ComesTo.mapM`, `Settles.mapM`).
-/
import GridRecords.Decode.Registry
import GridRecords.Proofs.Outcome

namespace GridRecords.Decoding

variable {α β : Type} {P : Registry → Prop} {E : Failure → Prop}

/-- In all registries with a property a computation comes to one result, and leaves a registry with
the property behind. -/
def ComesTo (P : Registry → Prop) (x : Decoding α) (result : Except Failure α) : Prop :=
  ∀ r : Registry, P r → ∃ after, x r = (result, after) ∧ P after

/-- In all registries with a property a computation comes to one result, and if that is a failure
it is one of a certain sort. -/
def Settles (P : Registry → Prop) (E : Failure → Prop) (x : Decoding α) : Prop :=
  ∃ result, x.ComesTo P result ∧ ∀ f, result = .error f → E f

/-! ## Running one step after another -/

theorem bind_of_ok {x : Decoding α} (f : α → Decoding β) {r after : Registry} {a : α}
    (h : x r = (.ok a, after)) : (x >>= f) r = f a after := by
  show ExceptT.bind x f r = f a after
  unfold ExceptT.bind ExceptT.mk
  show StateT.bind (m := Id) x _ r = f a after
  unfold StateT.bind
  rw [h]
  rfl

theorem bind_of_error {x : Decoding α} (f : α → Decoding β) {r after : Registry} {e : Failure}
    (h : x r = (.error e, after)) : (x >>= f) r = (Except.error e, after) := by
  show ExceptT.bind x f r = (Except.error e, after)
  unfold ExceptT.bind ExceptT.mk
  show StateT.bind (m := Id) x _ r = (Except.error e, after)
  unfold StateT.bind
  rw [h]
  rfl

/-! ## Computations that come to a result -/

namespace ComesTo

/-- A result that does not depend on the registry. -/
theorem lift (result : Except Failure α) : (Decoding.lift result).ComesTo P result := by
  intro r hr
  exact ⟨r, rfl, hr⟩

theorem pure (a : α) : (Pure.pure a : Decoding α).ComesTo P (.ok a) := by
  intro r hr
  exact ⟨r, rfl, hr⟩

theorem throw (e : Failure) : (MonadExcept.throw e : Decoding α).ComesTo P (.error e) := by
  intro r hr
  exact ⟨r, rfl, hr⟩

/-- After a failure nothing more is run. -/
theorem bind_error {x : Decoding α} (f : α → Decoding β) {e : Failure}
    (hx : x.ComesTo P (.error e)) : (x >>= f).ComesTo P (.error e) := by
  intro r hr
  obtain ⟨after, run, hafter⟩ := hx r hr
  exact ⟨after, bind_of_error f run, hafter⟩

/-- The second step may use what the first one is known to give. -/
theorem bind_ok {x : Decoding α} {f : α → Decoding β} {a : α} {result : Except Failure β}
    (hx : x.ComesTo P (.ok a)) (hf : (f a).ComesTo P result) : (x >>= f).ComesTo P result := by
  intro r hr
  obtain ⟨after, run, hafter⟩ := hx r hr
  obtain ⟨last, run', hlast⟩ := hf after hafter
  exact ⟨last, (bind_of_ok f run).trans run', hlast⟩

/-- Two steps come to the result of the second after that of the first. -/
theorem bind {x : Decoding α} {f : α → Decoding β} {result : Except Failure α}
    {next : α → Except Failure β} (hx : x.ComesTo P result)
    (hf : ∀ a, result = .ok a → (f a).ComesTo P (next a)) :
    (x >>= f).ComesTo P (result >>= next) := by
  cases result with
  | error e => exact hx.bind_error f
  | ok a => exact hx.bind_ok (hf a rfl)

theorem map {x : Decoding α} {result : Except Failure α} (f : α → β)
    (hx : x.ComesTo P result) : (f <$> x).ComesTo P (f <$> result) := by
  have two : (x >>= fun a => Pure.pure (f a)).ComesTo P (result >>= fun a => .ok (f a)) :=
    hx.bind fun a _ => ComesTo.pure (f a)
  rw [bind_pure_comp] at two
  cases result <;> exact two

/-- A failure given as a result. -/
theorem attempt {x : Decoding α} {result : Except Failure α} (hx : x.ComesTo P result) :
    (Decoding.attempt x).ComesTo P (.ok result) := by
  intro r hr
  obtain ⟨after, run, hafter⟩ := hx r hr
  refine ⟨after, ?_, hafter⟩
  unfold Decoding.attempt
  rw [run]

/-- A step for each member of a list. -/
theorem mapM {f : α → Decoding β} {result : α → Except Failure β} (xs : List α)
    (hf : ∀ x ∈ xs, (f x).ComesTo P (result x)) : (xs.mapM f).ComesTo P (xs.mapM result) := by
  induction xs with
  | nil => exact ComesTo.pure []
  | cons x rest ih =>
      rw [List.mapM_cons, List.mapM_cons]
      refine (hf x List.mem_cons_self).bind fun y _ => ?_
      refine (ih fun z hz => hf z (List.mem_cons_of_mem x hz)).bind fun ys _ => ?_
      exact ComesTo.pure (y :: ys)

/-- Steps that succeed for each member of a list. -/
theorem mapM_ok {f : α → Decoding β} {g : α → β} (xs : List α)
    (hf : ∀ x ∈ xs, (f x).ComesTo P (.ok (g x))) : (xs.mapM f).ComesTo P (.ok (xs.map g)) := by
  rw [← Outcome.mapM_eq_map fun _ _ => rfl]
  exact ComesTo.mapM xs hf

/-- A step without a result that succeeds for each member of a list. -/
theorem forM {f : α → Decoding PUnit} (xs : List α)
    (hf : ∀ x ∈ xs, (f x).ComesTo P (.ok PUnit.unit)) :
    (xs.forM f).ComesTo P (.ok PUnit.unit) := by
  induction xs with
  | nil => exact ComesTo.pure PUnit.unit
  | cons x rest ih =>
      refine (hf x List.mem_cons_self).bind_ok ?_
      exact ih fun z hz => hf z (List.mem_cons_of_mem x hz)

/-- Where a computation comes to a result, it comes to nothing else. -/
theorem eq {x : Decoding α} {result : Except Failure α} (hx : x.ComesTo P result) {r : Registry}
    (hr : P r) : (x r).1 = result := by
  obtain ⟨after, run, -⟩ := hx r hr
  rw [run]

/-- The property is kept. -/
theorem keeps {x : Decoding α} {result : Except Failure α} (hx : x.ComesTo P result)
    {r : Registry} (hr : P r) : P (x r).2 := by
  obtain ⟨after, run, hafter⟩ := hx r hr
  rw [run]
  exact hafter

end ComesTo

/-! ## Computations that settle -/

namespace Settles

theorem lift {result : Except Failure α} (only : ∀ f, result = .error f → E f) :
    (Decoding.lift result).Settles P E :=
  ⟨result, .lift result, only⟩

theorem pure (a : α) : (Pure.pure a : Decoding α).Settles P E :=
  ⟨.ok a, .pure a, fun _ h => nomatch h⟩

theorem throw {e : Failure} (h : E e) : (MonadExcept.throw e : Decoding α).Settles P E :=
  ⟨.error e, .throw e, fun _ eq => Except.error.inj eq ▸ h⟩

/-- Two steps settle when the second settles after what the first may give. -/
theorem bind_of {x : Decoding α} {f : α → Decoding β} {result : Except Failure α}
    (hx : x.ComesTo P result) (only : ∀ f, result = .error f → E f)
    (hf : ∀ a, result = .ok a → (f a).Settles P E) : (x >>= f).Settles P E := by
  cases result with
  | error e => exact ⟨.error e, hx.bind_error f, fun _ eq => only _ (Except.error.inj eq ▸ rfl)⟩
  | ok a =>
      obtain ⟨last, run, only'⟩ := hf a rfl
      exact ⟨last, hx.bind_ok run, only'⟩

theorem bind {x : Decoding α} {f : α → Decoding β} (hx : x.Settles P E)
    (hf : ∀ a, (f a).Settles P E) : (x >>= f).Settles P E := by
  obtain ⟨result, run, only⟩ := hx
  exact bind_of run only fun a _ => hf a

/-- Failures of one sort are failures of a wider one. -/
theorem mono {E' : Failure → Prop} {x : Decoding α} (hx : x.Settles P E) (wider : ∀ f, E f → E' f) :
    x.Settles P E' := by
  obtain ⟨result, run, only⟩ := hx
  exact ⟨result, run, fun f failed => wider f (only f failed)⟩

theorem map {x : Decoding α} (f : α → β) (hx : x.Settles P E) : (f <$> x).Settles P E := by
  rw [← bind_pure_comp]
  exact hx.bind fun a => Settles.pure (f a)

/-- A step for each member of a list. -/
theorem mapM {f : α → Decoding β} (xs : List α) (hf : ∀ x ∈ xs, (f x).Settles P E) :
    (xs.mapM f).Settles P E := by
  induction xs with
  | nil => exact Settles.pure []
  | cons x rest ih =>
      rw [List.mapM_cons]
      refine (hf x List.mem_cons_self).bind fun y => ?_
      refine (ih fun z hz => hf z (List.mem_cons_of_mem x hz)).bind fun ys => ?_
      exact Settles.pure (y :: ys)

theorem forM {f : α → Decoding PUnit} (xs : List α) (hf : ∀ x ∈ xs, (f x).Settles P E) :
    (xs.forM f).Settles P E := by
  induction xs with
  | nil => exact Settles.pure PUnit.unit
  | cons x rest ih =>
      refine (hf x List.mem_cons_self).bind fun _ => ?_
      exact ih fun z hz => hf z (List.mem_cons_of_mem x hz)

/-- A failure given as a result is none. -/
theorem attempt {x : Decoding α} (hx : x.Settles P E) : (Decoding.attempt x).Settles P E := by
  obtain ⟨result, run, -⟩ := hx
  exact ⟨.ok result, run.attempt, fun _ h => nomatch h⟩

/-- A computation that settles comes to what it comes to in any one registry. -/
theorem comesTo {x : Decoding α} (hx : x.Settles P E) {r : Registry} (hr : P r) :
    x.ComesTo P (x r).1 := by
  obtain ⟨result, run, -⟩ := hx
  rw [run.eq hr]
  exact run

/-- The failures of a computation that settles are of the sort in question. -/
theorem only {x : Decoding α} (hx : x.Settles P E) {r : Registry} (hr : P r) {f : Failure}
    (failed : (x r).1 = .error f) : E f := by
  obtain ⟨result, run, sort⟩ := hx
  exact sort f ((run.eq hr).symm.trans failed)

end Settles

end GridRecords.Decoding
