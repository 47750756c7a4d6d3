/-
# Selection is exact

No two signatures of a schema without a defect have the same fields.  The fields that all signatures
share stand in each of them, so those that are left tell the signatures apart as well
(`fieldsOf_of_distinct`): at most one signature fits what is supplied.  `select_exact` says which
one is selected, and what is reported if there is none.
-/
import GridRecords.Proofs.Row.Series
import GridRecords.Proofs.Schema.Selection

namespace GridRecords.Schema

variable {s : Schema} {a b signature : Signature} {r : FieldRecord} {c : Context}
  {names : List String}

/-! ## Matching by number -/

/-- The supplied names that not all signatures have. -/
def openNames (s : Schema) (r : FieldRecord) (c : Context) : List String :=
  (s.supplied r c).filter (!s.shared.contains ·)

/-- Some names match a signature: they are as many as the fields that tell it apart, and each of
them is one of these. -/
def matchesNames (s : Schema) (signature : Signature) (names : List String) : Bool :=
  (s.distinct signature).length == names.length && names.all (s.distinct signature).contains

theorem mem_openNames {name : String} :
    name ∈ s.openNames r c ↔ name ∈ s.supplied r c ∧ name ∉ s.shared := by
  unfold openNames
  simp [List.mem_filter]

theorem mem_distinct {name : String} :
    name ∈ s.distinct signature ↔ name ∈ s.fieldsOf signature ∧ name ∉ s.shared := by
  unfold distinct
  simp [List.mem_filter]

theorem pairwise_openNames (r : FieldRecord) (c : Context) :
    (s.openNames r c).Pairwise (· < ·) :=
  (pairwise_sortedNames _).filter _

theorem pairwise_distinct (signature : Signature) : (s.distinct signature).Pairwise (· < ·) :=
  (pairwise_sortedNames _).filter _

/-- **Matching by number is equality.**  Names in order that match a signature are the fields that
tell it apart. -/
theorem matchesNames_iff (ordered : names.Pairwise (· < ·)) :
    s.matchesNames signature names = true ↔ s.distinct signature = names := by
  unfold matchesNames
  rw [Bool.and_eq_true, beq_iff_eq, List.all_eq_true]
  constructor
  · rintro ⟨number, among⟩
    have subset : names ⊆ s.distinct signature := fun name mem => by simpa using among name mem
    -- names without repetition that are as many as the list they are from are all of it
    have same : names.Perm (s.distinct signature) :=
      (ordered.nodup.subperm subset).perm_of_length_le (by omega)
    exact (same.eq_of_pairwise' ordered (pairwise_distinct signature)).symm
  · intro same
    rw [same]
    exact ⟨rfl, fun name mem => by simpa using mem⟩

/-- The signatures that fit are those that the open names match. -/
theorem fitting_eq_filter (r : FieldRecord) (c : Context) :
    s.fitting (s.supplied r c) = s.signatures.filter (s.matchesNames · (s.openNames r c)) := by
  refine List.filter_congr fun signature _ => Bool.eq_iff_iff.2 ?_
  rw [matchesNames_iff (pairwise_openNames r c), beq_iff_eq]
  rfl

/-! ## Signatures are told apart -/

theorem nodup_of_sameFields? {signatures : List Signature}
    (h : s.sameFields? signatures = none) : (signatures.map s.fieldsOf).Nodup := by
  induction signatures with
  | nil => exact List.nodup_nil
  | cons a rest ih =>
      unfold sameFields? at h
      cases found : rest.find? fun b => s.fieldsOf b == s.fieldsOf a with
      | some b =>
          rw [found] at h
          cases h
      | none =>
          rw [found] at h
          rw [List.map_cons, List.nodup_cons]
          refine ⟨?_, ih h⟩
          intro mem
          obtain ⟨b, later, same⟩ := List.mem_map.1 mem
          exact List.find?_eq_none.1 found b later (beq_iff_eq.2 same)

/-- **No two signatures of a sound schema have the same fields.** -/
theorem nodup_fieldsOf (sound : s.validate = .ok ⟨⟩) : (s.signatures.map s.fieldsOf).Nodup := by
  have none : s.defect? = none := by
    unfold validate at sound
    split at sound
    · cases sound
    · assumption
  apply nodup_of_sameFields?
  simp only [defect?] at none
  split at none
  · cases none
  · split at none
    · cases none
    · exact (Option.or_eq_none_iff.1 none).2

/-- The shared fields stand in every signature, so the others tell its fields. -/
theorem fieldsOf_of_distinct (ha : a ∈ s.signatures) (hb : b ∈ s.signatures)
    (h : s.distinct a = s.distinct b) : s.fieldsOf a = s.fieldsOf b := by
  apply (pairwise_sortedNames _).eq_of_mem_iff (pairwise_sortedNames _)
  intro name
  show name ∈ s.fieldsOf a ↔ name ∈ s.fieldsOf b
  by_cases shared : name ∈ s.shared
  · exact iff_of_true (mem_fieldsOf_of_shared shared ha) (mem_fieldsOf_of_shared shared hb)
  · have open_ : name ∈ s.distinct a ↔ name ∈ s.distinct b := by rw [h]
    simpa [mem_distinct, shared] using open_

/-- **The fields that not all signatures have tell the signatures of a sound schema apart.** -/
theorem nodup_distinct (sound : s.validate = .ok ⟨⟩) : (s.signatures.map s.distinct).Nodup := by
  have fields := nodup_fieldsOf sound
  refine List.Nodup.map_on ?_ (List.Nodup.of_map _ fields)
  intro a ha b hb same
  exact List.inj_on_of_nodup_map fields ha hb (fieldsOf_of_distinct ha hb same)

/-- At most one signature fits. -/
theorem length_fitting_le_one (sound : s.validate = .ok ⟨⟩) (names : List String) :
    (s.fitting names).length ≤ 1 := by
  have number : (s.fitting names).length =
      (s.signatures.map s.distinct).count (names.filter (!s.shared.contains ·)) := by
    unfold fitting List.count
    rw [← List.countP_eq_length_filter, List.countP_map]
    rfl
  rw [number]
  exact List.nodup_iff_count_le_one.1 (nodup_distinct sound) _

/-! ## The outcome of a selection -/

/-- In a sound schema a signature that fits is selected. -/
theorem select_eq_ok_iff (sound : s.validate = .ok ⟨⟩) :
    s.select r c = .ok signature ↔
      signature ∈ s.signatures ∧ s.distinct signature = s.openNames r c := by
  constructor
  · intro selected
    exact ⟨mem_signatures_of_select selected, distinct_of_select selected⟩
  · intro fits
    have mem : signature ∈ s.fitting (s.supplied r c) := mem_fitting.2 fits
    have one : s.fitting (s.supplied r c) = [signature] := by
      have few := length_fitting_le_one sound (s.supplied r c)
      cases found : s.fitting (s.supplied r c) with
      | nil =>
          rw [found] at mem
          cases mem
      | cons first rest =>
          rw [found] at mem few
          have last : rest = [] := List.eq_nil_of_length_eq_zero (by simpa using few)
          rw [last] at mem ⊢
          rw [List.mem_singleton.1 mem]
    simp only [select, one]

/-- What a failed selection reports. -/
theorem eq_noMatchingSignature_of_select (sound : s.validate = .ok ⟨⟩) {f : Failure}
    (h : s.select r c = .error f) :
    f = .noMatchingSignature s.kind (s.supplied r c) (s.signatures.map s.fieldsOf) 0 := by
  have few := length_fitting_le_one sound (s.supplied r c)
  simp only [select] at h
  split at h
  · cases h
  · rename_i several
    have none : (s.fitting (s.supplied r c)).length = 0 := by
      cases found : s.fitting (s.supplied r c) with
      | nil => rfl
      | cons first rest =>
          rw [found] at few
          have last : rest = [] := List.eq_nil_of_length_eq_zero (by simpa using few)
          rw [last] at found
          exact absurd found (several first)
    rw [none] at h
    exact (Except.error.inj h).symm

theorem supplied_congr {r' : FieldRecord} {c' : Context}
    (h : ∀ name ∈ s.known, name ∈ r'.keys ∨ name ∈ c'.keys ↔ name ∈ r.keys ∨ name ∈ c.keys) :
    s.supplied r' c' = s.supplied r c := by
  refine sortedNames_congr fun name => ?_
  simp only [List.mem_filter, List.mem_append, List.contains_iff_mem]
  exact and_congr_left fun known => h name known

/-- **Selection is exact and never ambiguous.**  The supplied names are the known ones among those
of the record and the context, in order and each once.  At most one signature of a sound schema
matches them.  One is selected exactly if its fields are the supplied names, the shared ones apart;
if none is, the supplied names and the fields of every signature are reported.  Nothing but the set
of the supplied names enters the outcome. -/
theorem select_exact (sound : s.validate = .ok ⟨⟩) (r : FieldRecord) (c : Context) :
    (s.supplied r c).Pairwise (· < ·) ∧
    (∀ name, name ∈ s.supplied r c ↔ (name ∈ r.keys ∨ name ∈ c.keys) ∧ name ∈ s.known) ∧
    (s.signatures.filter (s.matchesNames · (s.openNames r c))).length ≤ 1 ∧
    (∀ signature, s.select r c = .ok signature ↔ signature ∈ s.signatures ∧
      ∀ name, name ∈ s.supplied r c ∧ name ∉ s.shared ↔
        name ∈ s.fieldsOf signature ∧ name ∉ s.shared) ∧
    (∀ f, s.select r c = .error f →
      f = .noMatchingSignature s.kind (s.supplied r c) (s.signatures.map s.fieldsOf) 0) ∧
    ∀ (r' : FieldRecord) (c' : Context),
      (∀ name ∈ s.known, name ∈ r'.keys ∨ name ∈ c'.keys ↔ name ∈ r.keys ∨ name ∈ c.keys) →
      s.select r' c' = s.select r c := by
  refine ⟨pairwise_sortedNames _, fun name => mem_supplied, ?_, fun signature => ?_,
    fun f failed => eq_noMatchingSignature_of_select sound failed, fun r' c' same => ?_⟩
  · rw [← fitting_eq_filter]
    exact length_fitting_le_one sound _
  · rw [select_eq_ok_iff sound]
    refine and_congr_right fun _ => ?_
    simp only [← mem_openNames, ← mem_distinct]
    constructor
    · intro same name
      rw [same]
    · intro same
      exact (pairwise_distinct signature).eq_of_mem_iff (pairwise_openNames r c)
        fun name => (same name).symm
  · unfold select
    rw [supplied_congr same]

/-- A row with the columns of two families of values. -/
def twoFamilies : FieldRecord :=
  .ofList [("uuid", ""), ("time", ""), ("price", ""), ("p", "")]

/-- What has the columns of two families is a value of neither. -/
theorem select_twoFamilies :
    Schema.timeBasedValue.select twoFamilies .empty =
      .error (.noMatchingSignature .timeBasedValue ["p", "price", "time", "uuid"]
        (Schema.timeBasedValue.signatures.map Schema.timeBasedValue.fieldsOf) 0) := by
  have names : Schema.timeBasedValue.supplied twoFamilies .empty =
      ["p", "price", "time", "uuid"] := by
    decide
  have refused : (Schema.timeBasedValue.select twoFamilies .empty).toOption.isNone = true := by
    decide
  obtain ⟨-, -, -, -, reported, -⟩ :=
    select_exact (Registry.validate_builtin.{0} .timeBasedValue) twoFamilies .empty
  cases outcome : Schema.timeBasedValue.select twoFamilies .empty with
  | ok signature =>
      rw [outcome] at refused
      cases refused
  | error f =>
      rw [← names]
      exact congrArg Except.error (reported f outcome)

end GridRecords.Schema
