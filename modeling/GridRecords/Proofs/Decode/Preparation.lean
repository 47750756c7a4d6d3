/-
# What preparation visits

Preparing some kinds takes them from a list of pending kinds, each at most once, and puts the kinds
that are embedded in their entities before the others.  Either part of the setup is missing or
broken, or in the end the pending kinds were visited with whatever is embedded in them, however deep
(`Registry.exists_prepares`).  So a kind that was prepared is among kinds with schemas that embed
no others (`Registry.exists_visited`).
-/
import GridRecords.Proofs.Decode.Strategies

namespace GridRecords

open Decoding

/-! ## Visiting kinds -/

/-- The kinds that were visited among those still to visit: what is pending is among them, and
what is embedded in entities of them. -/
structure Visits (strategies : Target → Option Strategy) (fresh pending visited : List EntityKind) :
    Prop where
  pending : ∀ kind ∈ pending, kind ∈ fresh → kind ∈ visited
  closed : ∀ kind ∈ visited, ∃ s, strategies (.entity kind) = some (.composite s) ∧
    ∀ target ∈ s.nestedKinds, target ∈ fresh → target ∈ visited

/-- Preparing comes to a failure of the setup, or the pending kinds were visited. -/
structure Prepares (strategies : Target → Option Strategy) (fresh pending : List EntityKind)
    (result : Except Failure PUnit) : Prop where
  configuration : ∀ f, result = .error f → f.isConfiguration = true
  visits : result = .ok ⟨⟩ → ∃ visited, Visits strategies fresh pending visited

variable {strategies : Target → Option Strategy} {P : Registry → Prop}

theorem Prepares.error {fresh pending : List EntityKind} {f : Failure}
    (h : f.isConfiguration = true) : Prepares strategies fresh pending (.error f) :=
  ⟨fun _ eq => Except.error.inj eq ▸ h, fun eq => nomatch eq⟩

/-- A kind is visited before what is embedded in entities of it. -/
theorem Visits.cons {fresh pending visited : List EntityKind} {kind : EntityKind} {s : Schema}
    (known : strategies (.entity kind) = some (.composite s))
    (h : Visits strategies (fresh.erase kind) (s.nestedKinds.reverse ++ pending) visited) :
    Visits strategies fresh (kind :: pending) (kind :: visited) := by
  -- what is no longer fresh after this step is the kind itself
  have fresher (target : EntityKind) (old : target ∈ fresh)
      (later : target ∈ fresh.erase kind → target ∈ visited) : target ∈ kind :: visited := by
    by_cases same : target = kind
    · rw [same]
      exact List.mem_cons_self
    · exact List.mem_cons_of_mem kind (later ((List.mem_erase_of_ne same).2 old))
  constructor
  · intro k mem old
    rcases List.mem_cons.1 mem with rfl | mem
    · exact List.mem_cons_self
    · exact fresher k old (h.pending k (List.mem_append_right _ mem))
  · intro k mem
    rcases List.mem_cons.1 mem with rfl | mem
    · refine ⟨s, known, fun target embedded old => fresher target old ?_⟩
      exact h.pending target (List.mem_append_left _ (List.mem_reverse.2 embedded))
    · obtain ⟨s', known', nested⟩ := h.closed k mem
      exact ⟨s', known', fun target embedded old => fresher target old (nested target embedded)⟩

namespace Registry

theorem comesTo_schemaFor (asks : Answers strategies P) {kind : EntityKind} {s : Schema}
    (h : strategies (.entity kind) = some (.composite s)) : (schemaFor kind).ComesTo P (.ok s) :=
  (asks.resolve_of_some h).bind_ok (.pure s)

/-- A registry has a schema for a kind, or it lacks a part of the setup. -/
theorem schemaFor_cases (asks : Answers strategies P) (kind : EntityKind) :
    (∃ s, strategies (.entity kind) = some (.composite s)) ∨
      ∃ f, f.isConfiguration = true ∧ (schemaFor kind).ComesTo P (.error f) := by
  cases known : strategies (.entity kind) with
  | none =>
      refine .inr ⟨.missingStrategy (Target.entity kind).text, rfl, ?_⟩
      have asked := asks (.entity kind)
      unfold answer at asked
      rw [known] at asked
      exact asked.bind_error _
  | some strategy =>
      cases strategy with
      | leaf _ _ =>
          exact .inr ⟨.missingStrategy kind.name, rfl,
            (asks.resolve_of_some known).bind_ok (.throw _)⟩
      | composite s => exact .inl ⟨s, rfl⟩

theorem isConfiguration_of_validate {s : Schema} {f : Failure} (h : s.validate = .error f) :
    f.isConfiguration = true := by
  unfold Schema.validate at h
  split at h
  · cases h
    rfl
  · cases h

theorem settles_prepareFields (asks : Answers strategies P) (s : Schema) :
    (prepareFields s).Settles P (·.isConfiguration = true) := by
  refine .forM _ fun p _ => ?_
  cases p.source with
  | direct leaf =>
      refine Settles.map _ ⟨_, asks (.leaf leaf), fun f failed => ?_⟩
      unfold answer at failed
      split at failed
      · cases failed
      · cases failed
        rfl
  | nested _ _ => exact .pure PUnit.unit
  | reference _ => exact .pure PUnit.unit

/-- **Preparing visits every kind that is pending and every kind embedded in those, or fails
because of the setup.** -/
theorem exists_prepares (asks : Answers strategies P) (fresh pending : List EntityKind) :
    ∃ result, (prepareFrom fresh pending).ComesTo P result ∧
      Prepares strategies fresh pending result := by
  induction fresh, pending using prepareFrom.induct with
  | case1 fresh =>
      unfold prepareFrom
      refine ⟨.ok ⟨⟩, .pure PUnit.unit, ?_, fun _ => ⟨[], ?_, ?_⟩⟩
      · intro f eq
        cases eq
      · intro kind mem
        cases mem
      · intro kind mem
        cases mem
  | case2 fresh kind pending known ih =>
      unfold prepareFrom
      rw [dif_pos known]
      rcases schemaFor_cases asks kind with ⟨s, found⟩ | ⟨f, setup, failed⟩
      · cases valid : s.validate with
        | error f =>
            refine ⟨.error f, (comesTo_schemaFor asks found).bind_ok ?_,
              .error (isConfiguration_of_validate valid)⟩
            rw [valid]
            exact (ComesTo.lift (.error f)).bind_error _
        | ok _ =>
            obtain ⟨fields, run, setup⟩ := settles_prepareFields asks s
            cases fields with
            | error f =>
                refine ⟨.error f, (comesTo_schemaFor asks found).bind_ok ?_, .error (setup f rfl)⟩
                rw [valid]
                exact (ComesTo.lift (.ok _)).bind_ok (run.bind_error _)
            | ok _ =>
                obtain ⟨result, rest, prepares⟩ := ih s
                refine ⟨result, (comesTo_schemaFor asks found).bind_ok ?_, prepares.configuration,
                  fun eq => ?_⟩
                · rw [valid]
                  exact (ComesTo.lift (.ok _)).bind_ok (run.bind_ok rest)
                · obtain ⟨visited, h⟩ := prepares.visits eq
                  exact ⟨kind :: visited, h.cons found⟩
      · exact ⟨.error f, failed.bind_error _, .error setup⟩
  | case3 fresh kind pending unknown ih =>
      unfold prepareFrom
      rw [dif_neg unknown]
      obtain ⟨result, run, prepares⟩ := ih
      refine ⟨result, run, prepares.configuration, fun eq => ?_⟩
      obtain ⟨visited, h⟩ := prepares.visits eq
      refine ⟨visited, fun k mem old => ?_, h.closed⟩
      rcases List.mem_cons.1 mem with rfl | mem
      · exact absurd old unknown
      · exact h.pending k mem old

theorem Answers.settles_prepare (asks : Answers strategies P) (kinds : List EntityKind) :
    (prepare kinds).Settles P (·.isConfiguration = true) := by
  obtain ⟨result, run, prepares⟩ := exists_prepares asks EntityKind.all kinds.reverse
  exact ⟨result, run, prepares.configuration⟩

theorem settles_prepare (kinds : List EntityKind) :
    (prepare kinds).Settles (DecodesBy strategies) (·.isConfiguration = true) :=
  (answers_decodesBy strategies).settles_prepare kinds

/-- A kind that was prepared is among kinds with schemas that embed no others. -/
theorem exists_visited {r : Registry} (hr : r.DecodesBy strategies) {kind : EntityKind}
    (prepared : (prepare [kind] r).1 = .ok ⟨⟩) :
    ∃ visited : List EntityKind, kind ∈ visited ∧ ∀ k ∈ visited,
      ∃ s, strategies (.entity k) = some (.composite s) ∧ ∀ target ∈ s.nestedKinds,
        target ∈ visited := by
  obtain ⟨result, run, prepares⟩ :=
    exists_prepares (answers_decodesBy strategies) EntityKind.all [kind].reverse
  obtain ⟨visited, h⟩ := prepares.visits ((run.eq hr).symm.trans prepared)
  refine ⟨visited, h.pending kind List.mem_cons_self kind.mem_all, fun k mem => ?_⟩
  obtain ⟨s, found, nested⟩ := h.closed k mem
  exact ⟨s, found, fun target embedded => nested target embedded target.mem_all⟩

end Registry

end GridRecords
