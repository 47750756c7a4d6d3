/-
# Signatures with optional parameters

A schema with optional parameters has a signature for each subset of them, and one of these is
always selected: exactly one subset consists of the optional parameters that the record or the
context has (`filter_subsets`), and no other one fits.  So selection never fails for such a schema,
and the selected signature is known in closed form (`select_withOptional`).
-/
import GridRecords.Proofs.Schema.Selection

namespace GridRecords.Schema

/-! ## Subsets -/

theorem subset_of_mem_subsets {α : Type} {l s : List α} (h : s ∈ subsets l) : s ⊆ l := by
  induction l generalizing s with
  | nil =>
      rw [List.mem_singleton.1 h]
      exact List.Subset.refl []
  | cons a rest ih =>
      obtain ⟨inner, mem, either⟩ := List.mem_flatMap.1 h
      rcases List.mem_cons.1 either with rfl | whole
      · exact List.subset_cons_of_subset a (ih mem)
      · rw [List.mem_singleton.1 whole]
        exact List.cons_subset_cons a (ih mem)

theorem nil_mem_subsets {α : Type} (l : List α) : [] ∈ subsets l := by
  induction l with
  | nil => exact List.mem_singleton_self []
  | cons a rest ih => exact List.mem_flatMap.2 ⟨[], ih, List.mem_cons_self⟩

/-- Whether of the members of a list a subset has those that are chosen, and no others. -/
def takes (chosen : String → Bool) (l s : List String) : Bool :=
  l.all fun n => s.contains n == chosen n

theorem takes_cons (chosen : String → Bool) (a : String) (rest s : List String) :
    takes chosen (a :: rest) s = (s.contains a == chosen a && takes chosen rest s) :=
  List.all_cons

theorem takes_cons_of_notMem {a : String} {rest : List String} (new : a ∉ rest)
    (chosen : String → Bool) (s : List String) :
    takes chosen rest (a :: s) = takes chosen rest s := by
  rw [Bool.eq_iff_iff]
  unfold takes
  rw [List.all_eq_true, List.all_eq_true]
  refine forall₂_congr fun n later => ?_
  have other : n ≠ a := fun eq => new (eq ▸ later)
  simp [other]

/-- Such a subset consists of the chosen members. -/
theorem takes_iff {chosen : String → Bool} {l s : List String} (subset : s ⊆ l) :
    takes chosen l s = true ↔ ∀ n, n ∈ s ↔ n ∈ l ∧ chosen n = true := by
  unfold takes
  rw [List.all_eq_true]
  constructor
  · intro same n
    constructor
    · intro mem
      have here := same n (subset mem)
      rw [beq_iff_eq, List.contains_iff_mem.2 mem] at here
      exact ⟨subset mem, here.symm⟩
    · rintro ⟨mem, taken⟩
      have here := beq_iff_eq.1 (same n mem)
      exact List.contains_iff_mem.1 (here.trans taken)
  · intro same n mem
    rw [beq_iff_eq, Bool.eq_iff_iff, List.contains_iff_mem, same n]
    exact and_iff_right mem

/-- **Exactly one subset of a list has the members that are chosen.** -/
theorem filter_subsets {l : List String} (nodup : l.Nodup) (chosen : String → Bool) :
    (subsets l).filter (takes chosen l) = [l.filter chosen] := by
  induction l with
  | nil => rfl
  | cons a rest ih =>
      obtain ⟨new, nodup⟩ := List.nodup_cons.1 nodup
      -- of a subset and its counterpart with `a` one has the right members if the rest is right
      have pair (s : List String) (mem : s ∈ subsets rest) :
          [s, a :: s].filter (takes chosen (a :: rest)) =
            ([s].filter (takes chosen rest)).map fun s => if chosen a then a :: s else s := by
        have without : s.contains a = false := by
          simpa using fun here => new (subset_of_mem_subsets mem here)
        have plain : takes chosen (a :: rest) s = (!chosen a && takes chosen rest s) := by
          rw [takes_cons, without]
          cases chosen a <;> rfl
        have whole : takes chosen (a :: rest) (a :: s) = (chosen a && takes chosen rest s) := by
          rw [takes_cons, takes_cons_of_notMem new]
          simp
        simp only [List.filter_cons, List.filter_nil, plain, whole]
        cases chosen a <;> cases takes chosen rest s <;> rfl
      calc (subsets (a :: rest)).filter (takes chosen (a :: rest))
          = (subsets rest).flatMap fun s =>
              ([s].filter (takes chosen rest)).map fun s => if chosen a then a :: s else s := by
            rw [subsets, List.filter_flatMap]
            exact List.flatMap_congr pair
        _ = ((subsets rest).filter (takes chosen rest)).map
              fun s => if chosen a then a :: s else s := by
            rw [← List.map_flatMap, ← List.filter_flatMap, List.flatMap_singleton']
        _ = [(a :: rest).filter chosen] := by
            rw [ih nodup, List.filter_cons, List.map_singleton]

/-! ## Variants -/

/-- The signature with some of the optional parameters. -/
def variant (parameters : List Parameter) (optional : List String) (build : Builder)
    (chosen : List String) : Signature :=
  ⟨variantName chosen, (parameters.map Parameter.name).filter (!optional.contains ·) ++ chosen,
    build⟩

/-- Names of optional parameters: each consumes the field of its name, which no other parameter
consumes. -/
structure AreOptional (parameters : List Parameter) (optional : List String) : Prop where
  distinct : (parameters.map Parameter.name).Nodup
  nodup : optional.Nodup
  own : ∀ name ∈ optional, ∃ p ∈ parameters, p.name = name ∧ p.fields = [name]
  alone : ∀ p ∈ parameters, ∀ name ∈ optional, name ∈ p.fields → p.name = name

variable {kind : EntityKind} {parameters : List Parameter} {optional chosen : List String}
  {build : Builder} {r : FieldRecord} {c : Context} {name : String}

theorem signatures_withOptional :
    (withOptional kind parameters optional build).signatures =
      (subsets optional).map (variant parameters optional build) := rfl

/-- A variant binds the needed parameters and those that were chosen. -/
theorem mem_parameters_variant :
    name ∈ (variant parameters optional build chosen).parameters ↔
      ((∃ p ∈ parameters, p.name = name) ∧ name ∉ optional) ∨ name ∈ chosen := by
  simp [variant]

theorem supplies_iff :
    (r.contains name || c.contains name) = true ↔ name ∈ r.keys ∨ name ∈ c.keys := by
  rw [Bool.or_eq_true]
  exact or_congr (r.fields.contains_iff name) (c.contains_iff name)

namespace AreOptional

variable (h : AreOptional parameters optional)

include h

theorem fields_eq {p : Parameter} (mem : p ∈ parameters) (free : p.name ∈ optional) :
    p.fields = [p.name] := by
  obtain ⟨q, mem', same, own⟩ := h.own p.name free
  rw [← List.inj_on_of_nodup_map h.distinct mem' mem same, own, same]

/-- The fields of a variant are those of the needed parameters and those that were chosen. -/
theorem mem_fieldsOf_variant (subset : chosen ⊆ optional) :
    name ∈ (withOptional kind parameters optional build).fieldsOf
        (variant parameters optional build chosen) ↔
      (∃ p ∈ parameters, p.name ∉ optional ∧ name ∈ p.fields) ∨ name ∈ chosen := by
  rw [mem_fieldsOf]
  constructor
  · rintro ⟨bound, binds, p, found, consumes⟩
    obtain ⟨mem, rfl⟩ := parameter?_eq_some found
    rcases mem_parameters_variant.1 binds with ⟨-, needed⟩ | taken
    · exact .inl ⟨p, mem, needed, consumes⟩
    · rw [h.fields_eq mem (subset taken)] at consumes
      rw [List.mem_singleton.1 consumes]
      exact .inr taken
  · rintro (⟨p, mem, needed, consumes⟩ | taken)
    · exact ⟨p.name, mem_parameters_variant.2 (.inl ⟨⟨p, mem, rfl⟩, needed⟩), p,
        parameter?_of_mem h.distinct mem, consumes⟩
    · obtain ⟨p, mem, rfl, own⟩ := h.own name (subset taken)
      refine ⟨p.name, mem_parameters_variant.2 (.inr taken), p,
        parameter?_of_mem h.distinct mem, ?_⟩
      rw [own]
      exact List.mem_singleton_self p.name

/-- All variants share the fields of the needed parameters. -/
theorem mem_shared : name ∈ (withOptional kind parameters optional build).shared ↔
    ∃ p ∈ parameters, p.name ∉ optional ∧ name ∈ p.fields := by
  constructor
  · intro shared
    have base : variant parameters optional build [] ∈
        (withOptional kind parameters optional build).signatures :=
      List.mem_map_of_mem (nil_mem_subsets optional)
    have here := mem_fieldsOf_of_shared shared base
    simpa using (h.mem_fieldsOf_variant (List.nil_subset optional)).1 here
  · intro needed
    refine mem_shared_of_forall (List.ne_nil_of_mem (List.mem_map_of_mem (nil_mem_subsets _))) ?_
    intro signature mem
    obtain ⟨chosen, subset, rfl⟩ := List.mem_map.1 mem
    exact (h.mem_fieldsOf_variant (subset_of_mem_subsets subset)).2 (.inl needed)

/-- No field of a needed parameter is an optional one. -/
theorem not_mem_shared (mem : name ∈ optional) :
    name ∉ (withOptional kind parameters optional build).shared := by
  intro shared
  obtain ⟨p, parameter, needed, consumes⟩ := h.mem_shared.1 shared
  rw [h.alone p parameter name mem consumes] at needed
  exact needed mem

/-- What sets a variant apart is what was chosen. -/
theorem mem_distinct_variant (subset : chosen ⊆ optional) :
    name ∈ (withOptional kind parameters optional build).distinct
      (variant parameters optional build chosen) ↔ name ∈ chosen := by
  unfold Schema.distinct
  rw [List.mem_filter, h.mem_fieldsOf_variant subset]
  constructor
  · rintro ⟨needed | taken, open_⟩
    · have shared : name ∈ (withOptional kind parameters optional build).shared :=
        h.mem_shared.2 needed
      simp [shared] at open_
    · exact taken
  · intro taken
    exact ⟨.inr taken, by simpa using h.not_mem_shared (subset taken)⟩

/-- What can set a signature apart for a record is what the record or the context has of the
optional fields. -/
theorem mem_open : name ∈ ((withOptional kind parameters optional build).supplied r c).filter
      (!(withOptional kind parameters optional build).shared.contains ·) ↔
    name ∈ optional ∧ (r.contains name || c.contains name) = true := by
  rw [List.mem_filter, mem_supplied, mem_known]
  constructor
  · rintro ⟨⟨present, p, parameter, consumes⟩, open_⟩
    rw [← supplies_iff] at present
    by_cases free : p.name ∈ optional
    · rw [h.fields_eq parameter free] at consumes
      rw [List.mem_singleton.1 consumes] at present ⊢
      exact ⟨free, present⟩
    · have shared : name ∈ (withOptional kind parameters optional build).shared :=
        h.mem_shared.2 ⟨p, parameter, free, consumes⟩
      simp [shared] at open_
  · rintro ⟨mem, present⟩
    obtain ⟨p, parameter, rfl, own⟩ := h.own name mem
    refine ⟨⟨supplies_iff.1 present, p, parameter, ?_⟩, ?_⟩
    · rw [own]
      exact List.mem_singleton_self p.name
    · simpa using h.not_mem_shared mem

/-- **The signature with the optional parameters that the record or the context has is
selected.** -/
theorem select_withOptional (r : FieldRecord) (c : Context) :
    (withOptional kind parameters optional build).select r c =
      .ok (variant parameters optional build
        (optional.filter fun name => r.contains name || c.contains name)) := by
  have fits (chosen : List String) (mem : chosen ∈ subsets optional) :
      ((withOptional kind parameters optional build).distinct
          (variant parameters optional build chosen) ==
        ((withOptional kind parameters optional build).supplied r c).filter
          (!(withOptional kind parameters optional build).shared.contains ·)) =
        takes (fun name => r.contains name || c.contains name) optional chosen := by
    have subset := subset_of_mem_subsets mem
    rw [Bool.eq_iff_iff, beq_iff_eq, takes_iff subset]
    refine filter_sortedNames_eq_iff.trans (forall_congr' fun name => ?_)
    exact iff_congr (h.mem_distinct_variant subset) h.mem_open
  have one : (withOptional kind parameters optional build).fitting
      ((withOptional kind parameters optional build).supplied r c) =
      [variant parameters optional build
        (optional.filter fun name => r.contains name || c.contains name)] := by
    unfold fitting
    rw [signatures_withOptional, List.filter_map, ← List.map_singleton]
    refine congrArg (List.map _) ?_
    exact (List.filter_congr fits).trans (filter_subsets h.nodup _)
  unfold select
  simp only [one]

end AreOptional

/-! ## The built-in schemas -/

/-- In the built-in schemas no two parameters consume the same field. -/
theorem areOptional_builtin (nodup : optional.Nodup)
    (own : ∀ name ∈ optional, ∃ p ∈ (builtin kind).parameters, p.name = name ∧ p.fields = [name]) :
    AreOptional (builtin kind).parameters optional := by
  refine ⟨nodup_parameters kind, nodup, own, fun p parameter name mem consumes => ?_⟩
  obtain ⟨q, parameter', same, fields⟩ := own name mem
  have consumes' : name ∈ q.fields := by
    rw [fields]
    exact List.mem_singleton_self name
  rw [Parameter.eq_of_mem_fields parameter parameter' consumes consumes', same]

/-- Except for time-based values, a kind has one builder, and a signature for each subset of its
optional parameters. -/
theorem exists_withOptional (plain : kind ≠ .timeBasedValue) :
    ∃ optional build, builtin kind = withOptional kind (builtin kind).parameters optional build ∧
      AreOptional (builtin kind).parameters optional := by
  cases kind with
  | timeBasedValue => exact absurd rfl plain
  | node =>
      exact ⟨Parameter.operated ++ ["geoposition"], _, rfl,
        areOptional_builtin (by decide) (by decide)⟩
  | load =>
      exact ⟨Parameter.operated ++ ["em"], _, rfl,
        areOptional_builtin (by decide) (by decide)⟩
  | chp =>
      exact ⟨Parameter.operated ++ ["em"], _, rfl,
        areOptional_builtin (by decide) (by decide)⟩
  | energyManager =>
      exact ⟨Parameter.operated ++ ["parentem"], _, rfl,
        areOptional_builtin (by decide) (by decide)⟩
  | line | thermalBus | cylindricalStorage =>
      exact ⟨Parameter.operated, _, rfl, areOptional_builtin (by decide) (by decide)⟩
  | _ => exact ⟨[], _, rfl, areOptional_builtin .nil fun _ mem => nomatch mem⟩

end GridRecords.Schema
