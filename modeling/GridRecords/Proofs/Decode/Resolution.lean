/-
# What a resolution holds

Resolving the references of a record looks each of them up on its own.  The context holds exactly
the entities that were found, and the substitutions are exactly the operators that were not.

Parameters of one schema have different names, which `nodup_references` checks for the built-in
schemas.
-/
import GridRecords.Decode.Entity
import GridRecords.Decode.Reference
import GridRecords.Proofs.Outcome
import GridRecords.Proofs.Record.Lookup
import GridRecords.Schema.Builtin

namespace GridRecords

/-- The uuid that the text of a field names, blanks around it apart. -/
def FieldRecord.Names (r : FieldRecord) (name : String) (u : Uuid) : Prop :=
  ∃ raw, r.get? name = some raw ∧ Text.trim raw.toList ≠ [] ∧
    Uuid.read (Text.trimmed raw) = .ok u

/-- A field is missing or blank. -/
def FieldRecord.IsBlank (r : FieldRecord) (name : String) : Prop :=
  ∀ raw, r.get? name = some raw → Text.trim raw.toList = []

namespace ReferenceIndex

variable {i : ReferenceIndex} {s : Schema} {r : FieldRecord} {resolution : Resolution}

/-! ## Outcomes -/

/-- The value that an outcome puts into the context. -/
def Outcome.value? : Outcome → Option Value
  | .found e => some (.entity e)
  | _ => none

/-- The substitution that an outcome notes. -/
def Outcome.substitution? : Outcome → Option Substitution
  | .substituted sub => some sub
  | _ => none

/-- What a reference of a record comes to; one that cannot be looked up counts as absent. -/
def outcome (i : ReferenceIndex) (r : FieldRecord) (reference : String × EntityKind) : Outcome :=
  match i.lookField r reference.1 reference.2 with
  | .ok o => o
  | .error _ => .absent

theorem outcome_of_lookField {reference : String × EntityKind} {o : Outcome}
    (h : i.lookField r reference.1 reference.2 = .ok o) : i.outcome r reference = o := by
  unfold outcome
  rw [h]

/-- What is found and substituted among the outcomes of references. -/
theorem resolution_of_outcomes (references : List (String × EntityKind)) :
    (⟨.ofList ((references.map fun x => (x.1, i.outcome r x)).filterMap fun
        | (name, .found e) => some (name, Value.entity e)
        | _ => none),
      (references.map fun x => (x.1, i.outcome r x)).filterMap fun
        | (_, .substituted sub) => some sub
        | _ => none⟩ : Resolution) =
      ⟨.ofList (references.filterMap fun x => (i.outcome r x).value?.map (x.1, ·)),
        references.filterMap fun x => (i.outcome r x).substitution?⟩ := by
  rw [List.filterMap_map, List.filterMap_map]
  congr 2
  · congr 1
    funext x
    simp only [Function.comp]
    cases i.outcome r x <;> rfl
  · funext x
    simp only [Function.comp]
    cases i.outcome r x <;> rfl

/-- References that can each be looked up are looked up one after the other. -/
theorem mapM_lookField {references : List (String × EntityKind)}
    (all : ∀ reference ∈ references, ∃ o, i.lookField r reference.1 reference.2 = .ok o) :
    (references.mapM fun (name, kind) => do
        return (name, ← i.lookField r name kind) : Except Failure (List (String × Outcome))) =
      .ok (references.map fun x => (x.1, i.outcome r x)) := by
  apply Outcome.mapM_eq_map
  intro x hx
  obtain ⟨o, ho⟩ := all x hx
  rw [outcome_of_lookField ho]
  simp only [GridRecords.Outcome.bind_eq_ok, ho]
  exact ⟨o, rfl, rfl⟩

/-- **A resolution puts together the outcomes of the single references.** -/
theorem resolve_eq_ok_iff :
    i.resolve s r = .ok resolution ↔
      (∀ reference ∈ s.references, ∃ o, i.lookField r reference.1 reference.2 = .ok o) ∧
      resolution =
        ⟨.ofList (s.references.filterMap fun x => (i.outcome r x).value?.map (x.1, ·)),
          s.references.filterMap fun x => (i.outcome r x).substitution?⟩ := by
  unfold resolve
  simp only [GridRecords.Outcome.bind_eq_ok, GridRecords.Outcome.pure_eq_ok]
  constructor
  · rintro ⟨outcomes, steps, rfl⟩
    have all : ∀ reference ∈ s.references,
        ∃ o, i.lookField r reference.1 reference.2 = .ok o := by
      intro x hx
      obtain ⟨_, step⟩ := Outcome.ok_of_mapM steps x hx
      simp only [GridRecords.Outcome.bind_eq_ok] at step
      obtain ⟨o, ho, _⟩ := step
      exact ⟨o, ho⟩
    refine ⟨all, ?_⟩
    rw [mapM_lookField all] at steps
    cases steps
    exact resolution_of_outcomes s.references
  · rintro ⟨all, rfl⟩
    exact ⟨_, mapM_lookField all, resolution_of_outcomes s.references⟩

theorem lookField_of_resolve (h : i.resolve s r = .ok resolution) {name : String}
    {kind : EntityKind} (mem : (name, kind) ∈ s.references) :
    ∃ o, i.lookField r name kind = .ok o :=
  (resolve_eq_ok_iff.1 h).1 (name, kind) mem

/-- What is found keeps different names. -/
theorem nodup_found (i : ReferenceIndex) (r : FieldRecord) {references : List (String × EntityKind)}
    (nodup : (references.map Prod.fst).Nodup) :
    ((references.filterMap fun x => (i.outcome r x).value?.map (x.1, ·)).map Prod.fst).Nodup := by
  refine List.Nodup.sublist ?_ nodup
  clear nodup
  induction references with
  | nil => exact .slnil
  | cons x rest ih =>
      rw [List.map_cons, List.filterMap_cons]
      cases (i.outcome r x).value? with
      | none => exact ih.cons _
      | some v => exact ih.cons_cons _

/-- The context holds what was found under a reference, and nothing else under its name. -/
theorem context_of_resolve (nodup : (s.references.map Prod.fst).Nodup)
    (h : i.resolve s r = .ok resolution) {name : String} {kind : EntityKind} {o : Outcome}
    (mem : (name, kind) ∈ s.references) (look : i.lookField r name kind = .ok o) :
    resolution.context.get? name = o.value? := by
  have eq := (resolve_eq_ok_iff.1 h).2
  subst eq
  have outcome : i.outcome r (name, kind) = o := outcome_of_lookField look
  have nodup' := nodup_found i r nodup
  show (Table.ofList _).get? name = _
  rw [Table.get?_ofList nodup']
  cases found : o.value? with
  | some v =>
      apply lookupEntry_of_mem nodup'
      rw [List.mem_filterMap]
      refine ⟨(name, kind), mem, ?_⟩
      rw [outcome, found]
      rfl
  | none =>
      rw [lookupEntry_eq_none_iff]
      intro bound
      obtain ⟨entry, mem', named⟩ := List.mem_map.1 bound
      obtain ⟨x, memX, eq⟩ := List.mem_filterMap.1 mem'
      cases foundX : (i.outcome r x).value? with
      | none => rw [foundX] at eq; cases eq
      | some v =>
          rw [foundX] at eq
          cases eq
          -- the name is that of one reference only
          have same : x = (name, kind) := List.inj_on_of_nodup_map nodup memX mem named
          rw [same, outcome, found] at foundX
          cases foundX

/-- Names that no reference has are not in the context. -/
theorem context_unreferenced (h : i.resolve s r = .ok resolution) {name : String}
    (none : name ∉ s.references.map Prod.fst) : resolution.context.get? name = Option.none := by
  have eq := (resolve_eq_ok_iff.1 h).2
  subst eq
  cases found : (Table.ofList (s.references.filterMap fun x =>
      (i.outcome r x).value?.map (x.1, ·))).get? name with
  | none => rfl
  | some v =>
      exfalso
      rw [Table.ofList, Table.get?_insertAll, Table.get?_empty, Option.or_none] at found
      have entry := List.mem_reverse.1 (mem_of_lookupEntry found)
      obtain ⟨x, mem, eq⟩ := List.mem_filterMap.1 entry
      cases value : (i.outcome r x).value? with
      | none => rw [value] at eq; cases eq
      | some _ =>
          rw [value] at eq
          cases eq
          exact none (List.mem_map_of_mem mem)

theorem mem_substitutions_iff (h : i.resolve s r = .ok resolution) {sub : Substitution} :
    sub ∈ resolution.substitutions ↔
      ∃ x ∈ s.references, i.lookField r x.1 x.2 = .ok (.substituted sub) := by
  obtain ⟨all, eq⟩ := resolve_eq_ok_iff.1 h
  subst eq
  rw [List.mem_filterMap]
  constructor
  · rintro ⟨x, mem, eq⟩
    obtain ⟨o, look⟩ := all x mem
    rw [outcome_of_lookField look] at eq
    refine ⟨x, mem, ?_⟩
    cases o <;> cases eq
    exact look
  · rintro ⟨x, mem, look⟩
    refine ⟨x, mem, ?_⟩
    rw [outcome_of_lookField look]
    rfl

/-! ## Looking up one reference -/

/-- A field that is missing or blank refers to nothing. -/
theorem lookField_absent {name : String} {kind : EntityKind} (h : r.IsBlank name) :
    i.lookField r name kind = .ok .absent := by
  unfold lookField
  cases field : r.get? name with
  | none => rfl
  | some raw =>
      simp only [h raw field]
      rfl

/-- A field that is not blank holds a uuid, which is looked up. -/
theorem lookField_eq_ok_iff {name : String} {kind : EntityKind} {raw : String} {o : Outcome}
    (field : r.get? name = some raw) (filled : Text.trim raw.toList ≠ []) :
    i.lookField r name kind = .ok o ↔
      ∃ u, Uuid.read (Text.trimmed raw) = .ok u ∧
        i.find name kind u (Text.trimmed raw) = .ok o := by
  have some' : (String.ofList (Text.trim raw.toList)).isEmpty = false := by
    cases text : Text.trim raw.toList with
    | nil => exact absurd text filled
    | cons c rest => simp
  unfold lookField Text.trimmed
  rw [field]
  simp only [some']
  cases Uuid.read (String.ofList (Text.trim raw.toList)) <;> simp

/-- What looking up a uuid can come to. -/
theorem find_cases {name : String} {kind : EntityKind} {u : Uuid} {raw : String} {o : Outcome}
    (h : i.find name kind u raw = .ok o) :
    (∃ e, i.get? u = some e ∧ e.kind = kind ∧ o = .found e) ∨
      (i.get? u = none ∧ kind = .operator ∧
        o = .substituted ⟨name, u, operatorReplacement⟩) ∨
      (i.get? u = none ∧ kind ≠ .operator ∧ o = .unknown) := by
  unfold find at h
  cases known : i.get? u with
  | some e =>
      rw [known] at h
      simp only at h
      split at h
      · rename_i right
        cases h
        exact .inl ⟨e, rfl, right, rfl⟩
      · cases h
  | none =>
      rw [known] at h
      simp only at h
      split at h
      · rename_i operator
        cases h
        exact .inr (.inl ⟨rfl, operator, rfl⟩)
      · rename_i other
        cases h
        exact .inr (.inr ⟨rfl, other, rfl⟩)

variable {name : String} {target : EntityKind} {o : Outcome}

/-- A reference that names a known entity is resolved to it. -/
theorem found_of_names (look : i.lookField r name target = .ok o) {u : Uuid}
    (names : r.Names name u) {x : Entity} (known : i.get? u = some x) :
    x.kind = target ∧ o = .found x := by
  obtain ⟨raw, field, filled, uuid⟩ := names
  obtain ⟨u', uuid', found⟩ := (lookField_eq_ok_iff field filled).1 look
  cases uuid.symm.trans uuid'
  rcases find_cases found with ⟨y, here, same, rfl⟩ | ⟨none, -⟩ | ⟨none, -⟩
  · cases known.symm.trans here
    exact ⟨same, rfl⟩
  · cases known.symm.trans none
  · cases known.symm.trans none

/-- An operator that is unknown is substituted. -/
theorem lookField_of_unknown {u : Uuid} (names : r.Names name u) (unknown : i.get? u = none) :
    i.lookField r name .operator = .ok (.substituted ⟨name, u, operatorReplacement⟩) := by
  obtain ⟨raw, field, filled, uuid⟩ := names
  refine (lookField_eq_ok_iff field filled).2 ⟨u, uuid, ?_⟩
  unfold find
  simp only [unknown, ↓reduceIte]

/-- Nothing else is. -/
theorem names_of_substituted {sub : Substitution}
    (look : i.lookField r name target = .ok (.substituted sub)) :
    target = .operator ∧ ∃ u, r.Names name u ∧ i.get? u = none ∧
      sub = ⟨name, u, operatorReplacement⟩ := by
  by_cases blank : r.IsBlank name
  · rw [lookField_absent blank] at look
    cases look
  · unfold FieldRecord.IsBlank at blank
    push Not at blank
    obtain ⟨raw, field, filled⟩ := blank
    obtain ⟨u, uuid, found⟩ := (lookField_eq_ok_iff field filled).1 look
    rcases find_cases found with ⟨_, -, -, other⟩ | ⟨unknown, operator, same⟩ | ⟨-, -, other⟩
    · cases other
    · cases same
      exact ⟨operator, u, ⟨raw, field, filled, uuid⟩, unknown, rfl⟩
    · cases other

/-! ## The built-in schemas -/

/-- No built-in schema has two references of one name. -/
theorem nodup_references (kind : EntityKind) :
    ((Schema.builtin kind).references.map Prod.fst).Nodup := by
  cases kind <;> decide

end ReferenceIndex

end GridRecords
