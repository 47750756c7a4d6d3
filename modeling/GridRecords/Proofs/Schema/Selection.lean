/-
# What selection ensures

A signature is selected when the fields that are supplied are its own, those of all signatures
apart.  So every supplied field that the schema knows belongs to the selected signature
(`mem_fieldsOf_of_select`), and a parameter that the record or the context has a field for is bound
by it (`binds_of_select`).
-/
import GridRecords.Proofs.Decode.Inversion

namespace GridRecords

variable {kind : EntityKind} {r : FieldRecord} {c : Context} {s : Schema} {signature : Signature}
  {name : String}

namespace Schema

theorem mem_known : name ∈ s.known ↔ ∃ p ∈ s.parameters, name ∈ p.fields := by
  unfold known
  rw [mem_sortedNames, List.mem_flatMap]

theorem mem_fieldsOf : name ∈ s.fieldsOf signature ↔
    ∃ bound ∈ signature.parameters, ∃ p, s.parameter? bound = some p ∧ name ∈ p.fields := by
  unfold fieldsOf
  rw [mem_sortedNames, List.mem_flatMap]
  refine exists_congr fun bound => and_congr_right fun _ => ?_
  cases s.parameter? bound <;> simp

theorem mem_supplied : name ∈ s.supplied r c ↔
    (name ∈ r.keys ∨ name ∈ c.keys) ∧ name ∈ s.known := by
  unfold supplied
  rw [mem_sortedNames, List.mem_filter, List.mem_append]
  simp

/-- Selection depends on the known fields that a record has, and on none of their texts. -/
theorem select_congr {r' : FieldRecord} (h : ∀ name ∈ s.known, r.contains name = r'.contains name) :
    s.select r c = s.select r' c := by
  have same : s.supplied r c = s.supplied r' c := by
    refine sortedNames_congr fun name => ?_
    simp only [List.mem_filter, List.mem_append, List.contains_iff_mem]
    refine and_congr_left fun known => or_congr_left ?_
    show name ∈ r.fields.keys ↔ name ∈ r'.fields.keys
    rw [← Table.contains_iff, ← Table.contains_iff]
    exact Bool.eq_iff_iff.1 (h name known)
  unfold select
  rw [same]

/-- A shared field belongs to every signature. -/
theorem mem_fieldsOf_of_shared (shared : name ∈ s.shared) (mem : signature ∈ s.signatures) :
    name ∈ s.fieldsOf signature := by
  have mem' : s.fieldsOf signature ∈ s.signatures.map s.fieldsOf := List.mem_map_of_mem mem
  unfold Schema.shared at shared
  cases fields : s.signatures.map s.fieldsOf with
  | nil =>
      rw [fields] at mem'
      cases mem'
  | cons first rest =>
      rw [fields] at mem' shared
      obtain ⟨here, others⟩ := List.mem_filter.1 shared
      rcases List.mem_cons.1 mem' with eq | mem'
      · rw [eq]
        exact here
      · simpa using List.all_eq_true.1 others _ mem'

/-- A field of all signatures is shared. -/
theorem mem_shared_of_forall (some' : s.signatures ≠ [])
    (all : ∀ signature ∈ s.signatures, name ∈ s.fieldsOf signature) : name ∈ s.shared := by
  unfold Schema.shared
  cases signatures : s.signatures with
  | nil => exact absurd signatures some'
  | cons first rest =>
      rw [signatures] at all
      refine List.mem_filter.2 ⟨all first List.mem_cons_self, ?_⟩
      rw [List.all_map, List.all_eq_true]
      intro signature later
      simpa using all signature (List.mem_cons_of_mem first later)

theorem mem_fitting {names : List String} : signature ∈ s.fitting names ↔
    signature ∈ s.signatures ∧ s.distinct signature = names.filter (!s.shared.contains ·) := by
  unfold fitting
  rw [List.mem_filter, beq_iff_eq]

/-- The signature that is selected fits what is supplied, and no other one does. -/
theorem fitting_of_select (h : s.select r c = .ok signature) :
    s.fitting (s.supplied r c) = [signature] := by
  simp only [select] at h
  split at h
  · rename_i one fits
    cases h
    exact fits
  · cases h

/-- The supplied fields, the shared ones apart, are those that tell the selected signature apart. -/
theorem distinct_of_select (h : s.select r c = .ok signature) :
    s.distinct signature = (s.supplied r c).filter (!s.shared.contains ·) :=
  (mem_fitting.1 (fitting_of_select h ▸ List.mem_singleton_self signature)).2

/-- Selection succeeds alike where the same fields are supplied, the shared ones apart. -/
theorem select_of_open {r' : FieldRecord} {c' : Context} (h : s.select r c = .ok signature)
    (same : (s.supplied r c).filter (!s.shared.contains ·) =
      (s.supplied r' c').filter (!s.shared.contains ·)) : s.select r' c' = .ok signature := by
  have fits : s.fitting (s.supplied r' c') = [signature] := by
    rw [← fitting_of_select h]
    unfold fitting
    rw [same]
  simp only [select, fits]

/-- **A known field that is supplied belongs to the selected signature.** -/
theorem mem_fieldsOf_of_select (h : s.select r c = .ok signature)
    (supplied : name ∈ s.supplied r c) : name ∈ s.fieldsOf signature := by
  by_cases shared : name ∈ s.shared
  · exact mem_fieldsOf_of_shared shared (mem_signatures_of_select h)
  · have open_ : name ∈ (s.supplied r c).filter (!s.shared.contains ·) :=
      List.mem_filter.2 ⟨supplied, by simpa using shared⟩
    rw [← distinct_of_select h] at open_
    exact (List.mem_filter.1 open_).1

theorem parameter?_eq_some {p : Parameter} (h : s.parameter? name = some p) :
    p ∈ s.parameters ∧ p.name = name :=
  ⟨List.mem_of_find?_eq_some h, by simpa using List.find?_some h⟩

/-- Where the parameters have different names, each is found under its own. -/
theorem parameter?_of_mem (nodup : (s.parameters.map Parameter.name).Nodup) {p : Parameter}
    (mem : p ∈ s.parameters) : s.parameter? p.name = some p := by
  cases found : s.parameter? p.name with
  | none => simpa using List.find?_eq_none.1 found p mem
  | some q =>
      obtain ⟨mem', same⟩ := parameter?_eq_some found
      rw [List.inj_on_of_nodup_map nodup mem' mem same]

/-- The fields of a signature are those of the parameters that it binds. -/
theorem mem_fieldsOf_iff_binds (nodup : (s.parameters.map Parameter.name).Nodup) :
    name ∈ s.fieldsOf signature ↔
      ∃ p ∈ s.parameters, signature.binds p.name = true ∧ name ∈ p.fields := by
  rw [mem_fieldsOf]
  constructor
  · rintro ⟨bound, binds, p, found, consumes⟩
    obtain ⟨mem, rfl⟩ := parameter?_eq_some found
    exact ⟨p, mem, by simpa [Signature.binds] using binds, consumes⟩
  · rintro ⟨p, mem, binds, consumes⟩
    exact ⟨p.name, by simpa [Signature.binds] using binds, p, parameter?_of_mem nodup mem,
      consumes⟩

end Schema

/-! ## References and embedded entities -/

/-- The fields of the entity that is embedded for a parameter. -/
def Parameter.nestedFields (p : Parameter) : List String :=
  match p.source with
  | .nested _ fields => fields
  | _ => []

/-- The fields of embedded entities are no references. -/
theorem unreferenced_of_nested {p : Parameter} (mem : p ∈ (Schema.builtin kind).parameters)
    {field : String} (h : field ∈ p.nestedFields) :
    field ∉ (Schema.builtin kind).references.map Prod.fst := by
  have all : ∀ kind ∈ EntityKind.all, ∀ p ∈ (Schema.builtin kind).parameters,
      ∀ field ∈ p.nestedFields, field ∉ (Schema.builtin kind).references.map Prod.fst := by
    decide
  exact all kind kind.mem_all p mem field h

theorem Schema.mem_nestedKinds {p : Parameter} (mem : p ∈ s.parameters) {target : EntityKind}
    {fields : List String} (source : p.source = .nested target fields) :
    target ∈ s.nestedKinds := by
  refine List.mem_filterMap.2 ⟨p, mem, ?_⟩
  rw [source]

/-- Entities that are embedded in others have none embedded in them. -/
theorem nestedKinds_of_embedded {target : EntityKind}
    (embedded : target ∈ (Schema.builtin kind).nestedKinds) :
    (Schema.builtin target).nestedKinds = [] := by
  have all : ∀ kind ∈ EntityKind.all, ∀ target ∈ (Schema.builtin kind).nestedKinds,
      (Schema.builtin target).nestedKinds = [] := by
    decide
  exact all kind kind.mem_all target embedded

/-- The references of a schema are parameters of it, and the only ones of their names. -/
theorem exists_parameter_of_reference {target : EntityKind} (h : (name, target) ∈ s.references) :
    ∃ p ∈ s.parameters, p.name = name ∧ p.source = .reference target := by
  obtain ⟨p, mem, eq⟩ := List.mem_filterMap.1 h
  cases source : p.source with
  | reference other =>
      rw [source] at eq
      cases eq
      exact ⟨p, mem, rfl, source⟩
  | direct leaf | nested other fields =>
      rw [source] at eq
      cases eq

/-- A parameter that no entity is decoded for consumes the field of its name. -/
theorem Parameter.name_mem_fields {p : Parameter}
    (own : ∀ target fields, p.source ≠ .nested target fields) : p.name ∈ p.fields := by
  unfold fields
  cases source : p.source with
  | nested target fields => exact absurd source (own target fields)
  | direct _ | reference _ => exact List.mem_singleton_self _

/-- Each field is consumed by one parameter. -/
theorem Parameter.eq_of_mem_fields {p q : Parameter} (hp : p ∈ (Schema.builtin kind).parameters)
    (hq : q ∈ (Schema.builtin kind).parameters) (h : name ∈ p.fields) (h' : name ∈ q.fields) :
    p = q := by
  have all : ∀ kind ∈ EntityKind.all, ∀ p ∈ (Schema.builtin kind).parameters, ∀ name ∈ p.fields,
      ∀ q ∈ (Schema.builtin kind).parameters, name ∈ q.fields → p = q := by
    decide
  exact all kind kind.mem_all p hp name h q hq h'

/-- **A parameter that the record or the context has a field for is bound by the selected
signature.** -/
theorem binds_of_select {p : Parameter} (h : (Schema.builtin kind).select r c = .ok signature)
    (parameter : p ∈ (Schema.builtin kind).parameters) (consumes : name ∈ p.fields)
    (supplied : name ∈ r.keys ∨ name ∈ c.keys) : signature.binds p.name = true := by
  have known := Schema.mem_known.2 ⟨p, parameter, consumes⟩
  have here := Schema.mem_fieldsOf_of_select h (Schema.mem_supplied.2 ⟨supplied, known⟩)
  obtain ⟨bound, binds, q, found, consumes'⟩ := Schema.mem_fieldsOf.1 here
  obtain ⟨mem, rfl⟩ := Schema.parameter?_eq_some found
  rw [Parameter.eq_of_mem_fields parameter mem consumes consumes']
  unfold Signature.binds
  simpa using binds

end GridRecords
