/-
# Outcomes

A computation of several steps succeeds exactly when each of its steps does, and fails as the first
one that fails.  The lemmas of this module open such a computation step by step, in either
direction.
-/
import GridRecords.Report.Failure
import Mathlib.Data.List.Forall2

namespace GridRecords.Outcome

variable {ε ε' α β : Type}

/-- A chain succeeds when its first step does and the rest succeeds on what that step gives. -/
@[simp] theorem bind_eq_ok {x : Except ε α} {f : α → Except ε β} {b : β} :
    (x >>= f) = .ok b ↔ ∃ a, x = .ok a ∧ f a = .ok b := by
  cases x <;> simp [bind, Except.bind]

/-- A chain fails when its first step does, or the rest on what that step gives. -/
theorem bind_eq_error {x : Except ε α} {f : α → Except ε β} {e : ε} :
    (x >>= f) = .error e ↔ x = .error e ∨ ∃ a, x = .ok a ∧ f a = .error e := by
  cases x <;> simp [bind, Except.bind]

@[simp] theorem pure_eq_ok {a b : α} : (pure a : Except ε α) = .ok b ↔ a = b := by
  simp [pure, Except.pure]

@[simp] theorem throw_ne_ok {e : ε} {b : α} : (throw e : Except ε α) ≠ .ok b := by
  simp [throw, throwThe, MonadExceptOf.throw]

@[simp] theorem map_eq_ok {x : Except ε α} {f : α → β} {b : β} :
    (f <$> x) = .ok b ↔ ∃ a, x = .ok a ∧ f a = b := by
  cases x <;> simp [Functor.map, Except.map]

theorem map_eq_error {x : Except ε α} {f : α → β} {e : ε} :
    (f <$> x) = .error e ↔ x = .error e := by
  cases x <;> simp [Functor.map, Except.map]

@[simp] theorem exceptMap_eq_ok {x : Except ε α} {f : α → β} {b : β} :
    x.map f = .ok b ↔ ∃ a, x = .ok a ∧ f a = b := by
  cases x <;> simp [Except.map]

/-- Rewording a failure makes no success of it. -/
@[simp] theorem mapError_eq_ok {x : Except ε α} {reword : ε → ε'} {a : α} :
    x.mapError reword = .ok a ↔ x = .ok a := by
  cases x <;> simp [Except.mapError]

/-- A test that the result of a successful outcome passes. -/
theorem exists_of_any {x : Except ε α} {p : α → Bool} (h : x.toOption.any p = true) :
    ∃ a, x = .ok a ∧ p a = true := by
  cases x with
  | error e => cases h
  | ok a => exact ⟨a, rfl, h⟩

/-! ## Optional results -/

theorem bind_eq_some {x : Option α} {f : α → Option β} {b : β} :
    (x >>= f) = some b ↔ ∃ a, x = some a ∧ f a = some b := Option.bind_eq_some_iff

theorem some_bind {a : α} {f : α → Option β} : (some a >>= f) = f a := rfl

/-! ## Lists -/

/-- The steps for the members of a list are all that counts. -/
theorem mapM_congr {f g : α → Except ε β} {xs : List α} (h : ∀ x ∈ xs, f x = g x) :
    xs.mapM f = xs.mapM g := by
  induction xs with
  | nil => rfl
  | cons x rest ih =>
      rw [List.mapM_cons, List.mapM_cons, h x List.mem_cons_self,
        ih fun y hy => h y (List.mem_cons_of_mem x hy)]

/-- Steps that give what other steps give, where those give something, do so together. -/
theorem mapM_mono {f g : α → Option β} {xs : List α}
    (more : ∀ x ∈ xs, ∀ y, f x = some y → g x = some y) {ys : List β}
    (h : xs.mapM f = some ys) : xs.mapM g = some ys := by
  induction xs generalizing ys with
  | nil => exact h
  | cons x rest ih =>
      rw [List.mapM_cons] at h ⊢
      obtain ⟨y, first, h⟩ := bind_eq_some.1 h
      obtain ⟨zs, others, h⟩ := bind_eq_some.1 h
      rw [more x List.mem_cons_self y first,
        ih (fun z mem => more z (List.mem_cons_of_mem _ mem)) others]
      exact h

/-- Steps that do nothing but give a result give the list of their results. -/
theorem mapM_eq_pure {m : Type → Type} [Monad m] [LawfulMonad m] {f : α → m β} {g : α → β}
    {xs : List α} (h : ∀ x ∈ xs, f x = pure (g x)) : xs.mapM f = pure (xs.map g) := by
  induction xs with
  | nil => exact List.mapM_nil
  | cons x rest ih =>
      rw [List.mapM_cons, h x List.mem_cons_self, ih fun z hz => h z (List.mem_cons_of_mem x hz),
        pure_bind, pure_bind, List.map_cons]

theorem mapM_eq_map {f : α → Except ε β} {g : α → β} {xs : List α}
    (h : ∀ x ∈ xs, f x = .ok (g x)) : xs.mapM f = .ok (xs.map g) := mapM_eq_pure h

/-- The results stand in the order of the list, one for each member. -/
theorem mapM_eq_ok_iff {f : α → Except ε β} {xs : List α} {ys : List β} :
    xs.mapM f = .ok ys ↔ List.Forall₂ (fun x y => f x = .ok y) xs ys := by
  induction xs generalizing ys with
  | nil =>
      rw [List.mapM_nil, pure_eq_ok, List.forall₂_nil_left_iff]
      exact eq_comm
  | cons x rest ih =>
      rw [List.mapM_cons, List.forall₂_cons_left_iff]
      simp only [bind_eq_ok, pure_eq_ok, ih]
      constructor
      · rintro ⟨y, here, ys, more, rfl⟩
        exact ⟨y, ys, here, more, rfl⟩
      · rintro ⟨y, ys, here, more, rfl⟩
        exact ⟨y, here, ys, more, rfl⟩

/-- Steps that succeed as other steps do, do so together. -/
theorem mapM_ok_mono {f g : α → Except ε β} {xs : List α}
    (more : ∀ x ∈ xs, ∀ y, f x = .ok y → g x = .ok y) {ys : List β} (h : xs.mapM f = .ok ys) :
    xs.mapM g = .ok ys :=
  mapM_eq_ok_iff.2 (((List.forall₂_and_left _ _).2 ⟨more, mapM_eq_ok_iff.1 h⟩).imp
    fun _ y step => step.1 y step.2)

/-- Where all steps succeed, each of them does. -/
theorem ok_of_mapM {f : α → Except ε β} {xs : List α} {ys : List β} (h : xs.mapM f = .ok ys) :
    ∀ x ∈ xs, ∃ y, f x = .ok y := by
  induction xs generalizing ys with
  | nil => intro x hx; cases hx
  | cons x rest ih =>
      rw [List.mapM_cons] at h
      simp only [bind_eq_ok] at h
      obtain ⟨y, hy, zs, hzs, _⟩ := h
      intro z hz
      rcases List.mem_cons.1 hz with rfl | hz
      · exact ⟨y, hy⟩
      · exact ih hzs z hz

/-- Steps over a list fail as one of them does. -/
theorem error_of_mapM {f : α → Except ε β} {xs : List α} {e : ε} (h : xs.mapM f = .error e) :
    ∃ x ∈ xs, f x = .error e := by
  induction xs with
  | nil => cases h
  | cons x rest ih =>
      rw [List.mapM_cons] at h
      obtain here | ⟨y, -, later⟩ := bind_eq_error.1 h
      · exact ⟨x, List.mem_cons_self, here⟩
      · obtain more | ⟨ys, -, failed⟩ := bind_eq_error.1 later
        · obtain ⟨z, mem, failed⟩ := ih more
          exact ⟨z, List.mem_cons_of_mem x mem, failed⟩
        · cases failed

/-- Steps over a list fail as the only one of them that fails. -/
theorem mapM_eq_error_of_only {f : α → Except ε β} {xs : List α} {x : α} {e : ε} (mem : x ∈ xs)
    (failed : f x = .error e) (others : ∀ y ∈ xs, y ≠ x → ∃ z, f y = .ok z) :
    xs.mapM f = .error e := by
  cases run : xs.mapM f with
  | ok ys =>
      obtain ⟨y, here⟩ := ok_of_mapM run x mem
      cases failed.symm.trans here
  | error e' =>
      obtain ⟨y, mem', failed'⟩ := error_of_mapM run
      by_cases same : y = x
      · subst same
        cases failed.symm.trans failed'
        rfl
      · obtain ⟨z, here⟩ := others y mem' same
        cases failed'.symm.trans here

/-- Steps over a list fail as the first one that fails. -/
theorem mapM_eq_error_iff {f : α → Except ε β} {xs : List α} {e : ε} :
    xs.mapM f = .error e ↔ ∃ x, xs.find? (fun x => !(f x).isOk) = some x ∧ f x = .error e := by
  induction xs with
  | nil => simp [pure, Except.pure]
  | cons x rest ih =>
      rw [List.mapM_cons, bind_eq_error, List.find?_cons]
      cases here : f x with
      | error other => simp [Except.isOk, Except.toBool, here]
      | ok y => simp [Except.isOk, Except.toBool, map_eq_error, ih]

/-- Steps over a list succeed together when each of them succeeds on its own. -/
theorem exists_mapM_iff {f : α → Except ε β} {xs : List α} :
    (∃ ys, xs.mapM f = .ok ys) ↔ ∀ x ∈ xs, ∃ y, f x = .ok y := by
  constructor
  · rintro ⟨ys, h⟩
    exact ok_of_mapM h
  · intro h
    induction xs with
    | nil => exact ⟨[], rfl⟩
    | cons x rest ih =>
        obtain ⟨y, hy⟩ := h x List.mem_cons_self
        obtain ⟨ys, hys⟩ := ih fun z hz => h z (List.mem_cons_of_mem x hz)
        refine ⟨y :: ys, ?_⟩
        rw [List.mapM_cons, hy, hys]
        rfl

end GridRecords.Outcome
