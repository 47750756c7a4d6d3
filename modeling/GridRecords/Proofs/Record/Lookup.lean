/-
# Looking up in tables

A table that is built from a list of bindings holds for each name the last binding of that name.
Where no name is bound twice the order of the bindings does not matter, and neither does it for
`sortedNames`, which depends on the set of its names only.
-/
import GridRecords.Record.Fields
import GridRecords.Schema.Basic
import Mathlib.Data.List.Nodup

namespace GridRecords

variable {α : Type}

/-! ## Lists of bindings -/

/-- A name that is looked up successfully stands in the list. -/
theorem mem_of_lookupEntry {name : String} {value : α} {entries : List (String × α)}
    (h : lookupEntry name entries = some value) : (name, value) ∈ entries := by
  induction entries with
  | nil => cases h
  | cons b rest ih =>
      unfold lookupEntry at h
      split at h
      · rename_i eq
        cases h
        rw [eq]
        exact List.mem_cons_self
      · exact List.mem_cons_of_mem b (ih h)

/-- Where no name is bound twice, the lookup finds every binding. -/
theorem lookupEntry_of_mem {name : String} {value : α} {entries : List (String × α)}
    (nodup : (entries.map Prod.fst).Nodup) (h : (name, value) ∈ entries) :
    lookupEntry name entries = some value := by
  induction entries with
  | nil => cases h
  | cons b rest ih =>
      rw [List.map_cons, List.nodup_cons] at nodup
      unfold lookupEntry
      rcases List.mem_cons.1 h with eq | later
      · cases eq
        rw [if_pos rfl]
      · have ne : name ≠ b.1 := by
          intro eq
          apply nodup.1
          rw [← eq]
          exact List.mem_map_of_mem (f := Prod.fst) later
        rw [if_neg ne]
        exact ih nodup.2 later

/-- A name is not found when it is not bound. -/
theorem lookupEntry_eq_none_iff {name : String} {entries : List (String × α)} :
    lookupEntry name entries = none ↔ name ∉ entries.map Prod.fst := by
  induction entries with
  | nil => simp [lookupEntry]
  | cons b rest ih =>
      unfold lookupEntry
      by_cases eq : name = b.1
      · simp [eq]
      · rw [if_neg eq, ih]
        simp [eq]

theorem lookupEntry_append (name : String) (first second : List (String × α)) :
    lookupEntry name (first ++ second) =
      (lookupEntry name first).or (lookupEntry name second) := by
  induction first with
  | nil => rfl
  | cons b rest ih =>
      simp only [List.cons_append, lookupEntry]
      split
      · rfl
      · exact ih

/-- Other values are found under the same names. -/
theorem lookupEntry_map {β : Type} (f : String → α → β) (name : String)
    (entries : List (String × α)) :
    lookupEntry name (entries.map fun e => (e.1, f e.1 e.2)) =
      (lookupEntry name entries).map (f name) := by
  induction entries with
  | nil => rfl
  | cons e rest ih =>
      simp only [List.map_cons, lookupEntry]
      split
      · rename_i same
        rw [same]
        rfl
      · exact ih

namespace Table

/-! ## Tables from lists -/

/-- Of several bindings of a name the last one counts. -/
theorem get?_insertAll (t : Table α) (entries : List (String × α)) (name : String) :
    (t.insertAll entries).get? name = (lookupEntry name entries.reverse).or (t.get? name) := by
  induction entries generalizing t with
  | nil => rfl
  | cons b rest ih =>
      rw [List.reverse_cons, lookupEntry_append, Option.or_assoc]
      refine (ih (t.insert b.1 b.2)).trans ?_
      rw [get?_insert]
      congr 1
      simp only [lookupEntry]
      split <;> rfl

/-- Where no name is bound twice, a table holds the bindings of its list. -/
theorem get?_ofList {entries : List (String × α)} (nodup : (entries.map Prod.fst).Nodup)
    (name : String) : (Table.ofList entries).get? name = lookupEntry name entries := by
  have reversed : (entries.reverse.map Prod.fst).Nodup := by
    rw [List.map_reverse]
    exact List.nodup_reverse.2 nodup
  rw [ofList, get?_insertAll, get?_empty, Option.or_none]
  apply Option.ext
  intro value
  constructor
  · intro found
    exact lookupEntry_of_mem nodup (List.mem_reverse.1 (mem_of_lookupEntry found))
  · intro found
    exact lookupEntry_of_mem reversed (List.mem_reverse.2 (mem_of_lookupEntry found))

/-- The names of a table are those that it binds. -/
theorem mem_keys_iff (t : Table α) (name : String) :
    name ∈ t.keys ↔ ∃ value, t.get? name = some value := by
  constructor
  · intro mem
    obtain ⟨⟨k, value⟩, entry, rfl⟩ := List.mem_map.1 mem
    exact ⟨value, t.get?_eq_some_iff.2 entry⟩
  · rintro ⟨value, found⟩
    exact List.mem_map_of_mem (f := Prod.fst) (t.get?_eq_some_iff.1 found)

theorem contains_iff (t : Table α) (name : String) : t.contains name = true ↔ name ∈ t.keys := by
  rw [mem_keys_iff, contains, Option.isSome_iff_exists]

theorem contains_eq_false_iff (t : Table α) (name : String) :
    t.contains name = false ↔ t.get? name = none := by
  unfold contains
  rw [← Bool.not_eq_true, Option.not_isSome_iff_eq_none]

/-- The names of a table depend on the set of them only. -/
theorem keys_congr {β : Type} {s : Table α} {t : Table β}
    (h : ∀ name, s.contains name = t.contains name) : s.keys = t.keys := by
  have ordered {γ : Type} (u : Table γ) : InOrder (u.keys.map (·, PUnit.unit)) := by
    unfold keys
    rw [List.map_map]
    exact u.inOrder.map _ fun _ _ before => before
  have mem (name : String) : name ∈ s.keys ↔ name ∈ t.keys := by
    rw [← contains_iff, h name, contains_iff]
  have same := eq_of_inOrder (ordered s) (ordered t) (by simp [mem])
  simpa [Function.comp_def] using congrArg (List.map Prod.fst) same

theorem isEmpty_congr {s t : Table α} (h : ∀ name, s.contains name = t.contains name) :
    s.isEmpty = t.isEmpty := by
  have same := congrArg List.isEmpty (keys_congr h)
  simp only [keys, List.isEmpty_map] at same
  exact same

theorem keys_filter (t : Table α) (p : String → Bool) : (t.filter p).keys = t.keys.filter p := by
  unfold keys filter
  rw [List.filter_map]
  rfl

theorem get?_restrict (t : Table α) (names : List String) (name : String) :
    (t.restrict names).get? name = if name ∈ names then t.get? name else none := by
  rw [restrict, get?_filter]
  simp only [List.contains_eq_mem, decide_eq_true_eq]

/-- Restricted to some names, tables are equal when they bind these names alike. -/
theorem restrict_congr {s t : Table α} {names : List String}
    (h : ∀ name ∈ names, s.get? name = t.get? name) : s.restrict names = t.restrict names := by
  apply ext_get?
  intro name
  rw [get?_restrict, get?_restrict]
  by_cases mem : name ∈ names
  · rw [if_pos mem, if_pos mem, h name mem]
  · rw [if_neg mem, if_neg mem]

theorem contains_restrict (t : Table α) (names : List String) (name : String) :
    (t.restrict names).contains name = (decide (name ∈ names) && t.contains name) := by
  unfold contains
  rw [get?_restrict]
  by_cases mem : name ∈ names <;> simp [mem]

/-- A table is empty when it binds no name. -/
theorem isEmpty_iff (t : Table α) : t.isEmpty = true ↔ ∀ name, t.get? name = none := by
  unfold isEmpty
  rw [List.isEmpty_iff]
  constructor
  · intro none name
    unfold get?
    rw [none]
    rfl
  · intro none
    refine List.eq_nil_iff_forall_not_mem.2 fun ⟨name, value⟩ entry => ?_
    have found := t.get?_eq_some_iff.2 entry
    rw [none name] at found
    cases found

/-- A table has no binding of some names. -/
theorem isEmpty_restrict_iff (t : Table α) (names : List String) :
    (t.restrict names).isEmpty = true ↔ ∀ name ∈ names, t.contains name = false := by
  rw [isEmpty_iff]
  refine forall_congr' fun name => ?_
  rw [get?_restrict]
  unfold contains
  by_cases mem : name ∈ names <;> simp [mem]

/-- The table of some names without values. -/
theorem get?_ofNames (names : List String) (name : String) :
    (Table.ofList (names.map fun name => (name, PUnit.unit))).get? name =
      if name ∈ names then some PUnit.unit else none := by
  rw [ofList, get?_insertAll, get?_empty, Option.or_none]
  by_cases mem : name ∈ names
  · rw [if_pos mem]
    cases found : lookupEntry name (names.map fun name => (name, PUnit.unit)).reverse with
    | some _ => rfl
    | none =>
        exfalso
        apply lookupEntry_eq_none_iff.1 found
        simp [mem]
  · rw [if_neg mem, lookupEntry_eq_none_iff]
    simp [mem]

end Table

theorem FieldRecord.get?_restrict (r : FieldRecord) (names : List String) (name : String) :
    (r.restrict names).get? name = if name ∈ names then r.get? name else none :=
  Table.get?_restrict r.fields names name

/-! ## Sorted names -/

theorem mem_sortedNames {name : String} {names : List String} :
    name ∈ sortedNames names ↔ name ∈ names := by
  unfold sortedNames
  rw [Table.mem_keys_iff, Table.get?_ofNames]
  by_cases mem : name ∈ names <;> simp [mem]

/-- Sorted names depend on the set of the names only. -/
theorem sortedNames_congr {first second : List String} (h : ∀ n, n ∈ first ↔ n ∈ second) :
    sortedNames first = sortedNames second := by
  unfold sortedNames
  congr 1
  apply Table.ext_get?
  intro name
  rw [Table.get?_ofNames, Table.get?_ofNames]
  simp only [h name]

theorem filter_sortedNames (names : List String) (p : String → Bool) :
    (sortedNames names).filter p = sortedNames (names.filter p) := by
  unfold sortedNames
  rw [← Table.keys_filter]
  congr 1
  apply Table.ext_get?
  intro name
  rw [Table.get?_filter, Table.get?_ofNames, Table.get?_ofNames]
  by_cases passes : p name = true <;> simp [List.mem_filter, passes]

/-- Names that pass a test are equal in order when they are the same names. -/
theorem filter_sortedNames_eq_iff {first second : List String} {p q : String → Bool} :
    (sortedNames first).filter p = (sortedNames second).filter q ↔
      ∀ n, n ∈ (sortedNames first).filter p ↔ n ∈ (sortedNames second).filter q := by
  constructor
  · intro same n
    rw [same]
  · intro same
    rw [filter_sortedNames, filter_sortedNames] at same ⊢
    simp only [mem_sortedNames] at same
    exact sortedNames_congr same

end GridRecords
