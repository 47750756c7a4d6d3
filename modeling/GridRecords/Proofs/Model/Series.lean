/-
# Series in order

Timestamps are compared by instant.  Any two of them are in order one way or the other, in both
where they are one instant under two offsets, so sorting has to say what becomes of such values:
they keep their order (`TimeSeries.sublist_entries`).  Sorting once is enough, and the entries of a
series make the series again (`TimeSeries.checked_again`).
-/
import GridRecords.Model.Measurement
import Mathlib.Data.List.Sort

namespace GridRecords

/-! ## The order of instants -/

namespace Timestamp

variable {s t u : Timestamp}

theorem isAtMost_iff :
    s.isAtMost t = true ↔ s.seconds < t.seconds ∨ s.seconds = t.seconds ∧ s.nanos ≤ t.nanos := by
  simp only [isAtMost, isBefore, Bool.not_eq_true', Bool.or_eq_false_iff, Bool.and_eq_false_iff,
    decide_eq_false_iff_not, beq_eq_false_iff_ne]
  omega

theorem isAtMost_trans (first : s.isAtMost t = true) (second : t.isAtMost u = true) :
    s.isAtMost u = true := by
  rw [isAtMost_iff] at first second ⊢
  omega

theorem isAtMost_total (s t : Timestamp) : (s.isAtMost t || t.isAtMost s) = true := by
  rw [Bool.or_eq_true, isAtMost_iff, isAtMost_iff]
  omega

end Timestamp

/-! ## Series -/

namespace TimeSeries

variable {uuid : Uuid} {given : List TimeBasedValue} {s : TimeSeries}

/-- **Values of one family make a series**, and no others do: they are sorted by their instants,
and values of one instant keep their order. -/
theorem checked_eq_ok_iff : checked uuid given = .ok s ↔
    (∀ v ∈ given, ∀ w ∈ given, v.family = w.family) ∧
      s = ⟨uuid, given.mergeSort fun a b => a.time.isAtMost b.time⟩ := by
  cases given with
  | nil =>
      simp only [checked, Except.ok.injEq, List.not_mem_nil, false_implies, implies_true, true_and]
      exact eq_comm
  | cons first rest =>
      simp only [checked]
      split
      · rename_i v odd
        have mem := List.mem_of_find?_eq_some odd
        have other := List.find?_some odd
        simp only [reduceCtorEq, false_iff, not_and]
        intro same
        exact absurd (same v mem first List.mem_cons_self) (of_decide_eq_true other)
      · rename_i alike
        have same : ∀ v ∈ first :: rest, v.family = first.family := by
          intro v mem
          simpa using List.find?_eq_none.1 alike v mem
        simp only [Except.ok.injEq]
        constructor
        · rintro rfl
          exact ⟨fun v hv w hw => (same v hv).trans (same w hw).symm, rfl⟩
        · rintro ⟨-, rfl⟩
          rfl

/-- The entries of a series are in the order of their instants. -/
theorem pairwise_entries (h : checked uuid given = .ok s) :
    s.entries.Pairwise fun a b => a.time.isAtMost b.time = true := by
  obtain ⟨-, rfl⟩ := checked_eq_ok_iff.1 h
  refine List.pairwise_mergeSort ?_ ?_ given
  · intro a b c
    exact Timestamp.isAtMost_trans
  · intro a b
    exact Timestamp.isAtMost_total a.time b.time

/-- The entries of a series are the values it was made of. -/
theorem perm_entries (h : checked uuid given = .ok s) : s.entries.Perm given := by
  obtain ⟨-, rfl⟩ := checked_eq_ok_iff.1 h
  exact List.mergeSort_perm given _

/-- Values that are given in order keep their order in a series, also those of one instant. -/
theorem sublist_entries (h : checked uuid given = .ok s) {values : List TimeBasedValue}
    (ordered : values.Pairwise fun a b => a.time.isAtMost b.time = true)
    (among : values.Sublist given) : values.Sublist s.entries := by
  obtain ⟨-, rfl⟩ := checked_eq_ok_iff.1 h
  refine List.sublist_mergeSort ?_ ?_ ordered among
  · intro a b c
    exact Timestamp.isAtMost_trans
  · intro a b
    exact Timestamp.isAtMost_total a.time b.time

/-- The entries of a series are of its family. -/
theorem family?_eq (h : checked uuid given = .ok s) {v : TimeBasedValue} (mem : v ∈ s.entries) :
    s.family? = some v.family := by
  obtain ⟨same, -⟩ := checked_eq_ok_iff.1 h
  unfold family?
  cases entries : s.entries with
  | nil =>
      rw [entries] at mem
      cases mem
  | cons first rest =>
      have leads : first ∈ s.entries := by
        rw [entries]
        exact List.mem_cons_self
      have leads' : first ∈ given := (perm_entries h).mem_iff.1 leads
      exact congrArg some (same first leads' v ((perm_entries h).mem_iff.1 mem))

/-- **The entries of a series make the series again.** -/
theorem checked_again (h : checked uuid given = .ok s) : checked s.uuid s.entries = .ok s := by
  rw [checked_eq_ok_iff]
  constructor
  · intro v hv w hw
    exact Option.some.inj ((family?_eq h hv).symm.trans (family?_eq h hw))
  · rw [List.mergeSort_of_pairwise (pairwise_entries h)]

end TimeSeries

end GridRecords
