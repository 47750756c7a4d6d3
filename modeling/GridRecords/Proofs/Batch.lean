/-
# The outcome of a batch

A batch stops at the first row whose failure concerns the setup, or at the first row that fails
when it is to fail fast (`BatchOutcome.stop?`).  Otherwise its items are those of the rows that were
mapped, every row is counted once, and the issues are those of its rows in order: a warning for
each substitution of a row that was mapped, or the failure of a row that was not
(`BatchOutcome.account`).  That is all there is to a batch (`BatchOutcome.ofRows_eq`), so rows after
others only have their numbers shifted (`BatchOutcome.ofRows_append`).
-/
import GridRecords.Batch
import GridRecords.Proofs.Outcome
import Mathlib.Data.List.Nodup

namespace GridRecords

variable {α : Type}

/-! ## Issues further down -/

/-- An issue with a number of rows put before its own. -/
def Issue.shift (i : Issue) (rows : Nat) : Issue := { i with row := i.row.map (· + rows) }

theorem Issue.shift_zero (i : Issue) : i.shift 0 = i := by
  cases i
  simp [shift]

theorem Issue.shift_shift (i : Issue) (m n : Nat) : (i.shift m).shift n = i.shift (n + m) := by
  simp [shift, Function.comp_def, Nat.add_assoc, Nat.add_comm m n]

/-! ## Rows -/

namespace RowOutcome

/-- The item that a row was mapped to. -/
def item? (r : RowOutcome α) : Option α :=
  match r.result with
  | .ok (item, _) => some item
  | .error _ => none

/-- The failure of a row that was not mapped. -/
def failure? (r : RowOutcome α) : Option Failure :=
  match r.result with
  | .ok _ => none
  | .error f => some f

/-- The failure that stops a batch at a row: one that concerns the setup or, when the batch is to
fail fast, any. -/
def stop? (failFast : Bool) (r : RowOutcome α) : Option Failure :=
  r.failure?.filter fun f => f.isConfiguration || failFast

theorem stop?_of_error {failFast : Bool} {r : RowOutcome α} {f : Failure}
    (h : r.result = .error f) :
    r.stop? failFast = if f.isConfiguration || failFast then some f else none := by
  simp only [stop?, failure?, h, Option.filter_some]

/-- The issues of the row of a number: a warning for each reference that was substituted in a row
that was mapped, or one error with the code of the failure of a row that was not. -/
def issues (r : RowOutcome α) (row : Nat) : List Issue :=
  match r.result with
  | .ok (_, substitutions) => substitutions.map fun s =>
      { severity := .warning
        category := "reference"
        message := s.text
        row := some row
        entity := some r.label }
  | .error f =>
      [{ severity := .error
         category := f.code
         message := f.message
         row := some row
         entity := some r.label }]

/-- The issues of a row are about that row. -/
theorem row_of_mem_issues {r : RowOutcome α} {row : Nat} {issue : Issue}
    (h : issue ∈ r.issues row) : issue.row = some row := by
  unfold issues at h
  split at h
  · obtain ⟨s, -, rfl⟩ := List.mem_map.1 h
    rfl
  · rw [List.mem_singleton.1 h]

/-- Further down a row has the same issues. -/
theorem issues_add (r : RowOutcome α) (row more : Nat) :
    r.issues (row + more) = (r.issues row).map (·.shift more) := by
  unfold issues
  cases r.result with
  | ok mapped => simp [Function.comp_def, Issue.shift]
  | error f => rfl

end RowOutcome

namespace BatchOutcome

/-! ## What a batch comes to -/

/-- The first failure of a row that stops a batch. -/
def stop? (failFast : Bool) (rows : List (RowOutcome α)) : Option Failure :=
  rows.findSome? (RowOutcome.stop? failFast)

/-- The outcome of rows that do not stop the batch.  Rows are numbered from one. -/
def account (rows : List (RowOutcome α)) : BatchOutcome α where
  items := rows.filterMap RowOutcome.item?
  report :=
    { processed := rows.length
      succeeded := (rows.filterMap RowOutcome.item?).length
      skipped := rows.length - (rows.filterMap RowOutcome.item?).length
      issues := (rows.zipIdx 1).flatMap fun numbered => numbered.1.issues numbered.2 }

/-- One outcome after another: items and issues follow each other, the counts are added, and the
rows of the later one are numbered on from those of the earlier one. -/
def append (first : BatchOutcome α) (rows : Nat) (last : BatchOutcome α) : BatchOutcome α where
  items := first.items ++ last.items
  report :=
    { processed := first.report.processed + last.report.processed
      succeeded := first.report.succeeded + last.report.succeeded
      skipped := first.report.skipped + last.report.skipped
      issues := first.report.issues ++ last.report.issues.map (·.shift rows) }

theorem append_append (first middle last : BatchOutcome α) (m n : Nat) :
    (first.append m middle).append (m + n) last = first.append m (middle.append n last) := by
  simp [append, Nat.add_assoc, Issue.shift_shift, Function.comp_def]

theorem empty_append (o : BatchOutcome α) : empty.append 0 o = o := by
  simp [append, empty, BatchReport.empty, Issue.shift_zero]

theorem stop?_append (failFast : Bool) (xs ys : List (RowOutcome α)) :
    stop? failFast (xs ++ ys) = (stop? failFast xs).or (stop? failFast ys) :=
  List.findSome?_append

/-- The issues of rows with others before them. -/
theorem flatMap_issues_zipIdx (rows : List (RowOutcome α)) (start more : Nat) :
    (rows.zipIdx (start + more)).flatMap (fun numbered => numbered.1.issues numbered.2) =
      ((rows.zipIdx start).flatMap fun numbered => numbered.1.issues numbered.2).map
        (·.shift more) := by
  induction rows generalizing start with
  | nil => rfl
  | cons r rest ih =>
      rw [List.zipIdx_cons, List.zipIdx_cons, List.flatMap_cons, List.flatMap_cons,
        List.map_append, Nat.add_right_comm, ih (start + 1), RowOutcome.issues_add]

theorem account_append (xs ys : List (RowOutcome α)) :
    account (xs ++ ys) = (account xs).append xs.length (account ys) := by
  have fewer := List.length_filterMap_le RowOutcome.item? xs
  have fewer' := List.length_filterMap_le RowOutcome.item? ys
  simp only [account, append, List.filterMap_append, List.length_append, List.zipIdx_append,
    List.flatMap_append, flatMap_issues_zipIdx, mk.injEq, BatchReport.mk.injEq, true_and, and_true]
  omega

/-! ## Adding rows -/

/-- Warnings are noted one after the other, and count no row. -/
theorem foldl_warn (report : BatchReport) (row : Nat) (label category : String)
    (substitutions : List Substitution) :
    substitutions.foldl (fun report s => report.warn row label category s.text) report =
      { report with
        issues := report.issues ++ substitutions.map fun s =>
          (Issue.warning category s.text).atRow row label } := by
  induction substitutions generalizing report with
  | nil => simp
  | cons s rest ih =>
      rw [List.foldl_cons, ih]
      simp [BatchReport.warn]

/-- Adding a row stops the batch, or adds the outcome of that row alone. -/
theorem addRow_eq (failFast : Bool) (o : BatchOutcome α) (before : Nat) (r : RowOutcome α) :
    o.addRow failFast (before + 1) r =
      match stop? failFast [r] with
      | some f => .error f
      | none => .ok (o.append before (account [r])) := by
  unfold addRow
  cases result : r.result with
  | ok mapped =>
      simp [stop?, account, append, addItem, foldl_warn, BatchReport.success,
        RowOutcome.stop?, RowOutcome.failure?, RowOutcome.item?, RowOutcome.issues, result,
        Function.comp_def, Issue.warning, Issue.atRow, referenceCategory, Issue.shift,
        Nat.add_comm]
  | error f =>
      by_cases stops : (f.isConfiguration || failFast) = true
      · simp [stop?, RowOutcome.stop?_of_error result, stops]
      · simp [stop?, RowOutcome.stop?_of_error result, account, append, BatchReport.failure,
          RowOutcome.item?, RowOutcome.issues, result, stops, Issue.ofFailure, Issue.atRow,
          Issue.shift, Nat.add_comm]

/-- Adding rows one after the other, from any outcome and any number on. -/
theorem foldlM_addRow_eq (failFast : Bool) (rows : List (RowOutcome α)) (before : Nat)
    (first : BatchOutcome α) :
    (rows.zipIdx (before + 1)).foldlM (fun o (r, row) => o.addRow failFast row r) first =
      match stop? failFast rows with
      | some f => .error f
      | none => .ok (first.append before (account rows)) := by
  induction rows generalizing before first with
  | nil => simp [stop?, append, account, pure, Except.pure]
  | cons r rest ih =>
      have one : stop? failFast (r :: rest) = (stop? failFast [r]).or (stop? failFast rest) :=
        stop?_append failFast [r] rest
      have counted : account (r :: rest) = (account [r]).append 1 (account rest) :=
        account_append [r] rest
      rw [List.zipIdx_cons, List.foldlM_cons, one, counted]
      show (first.addRow failFast (before + 1) r >>= _) = _
      rw [addRow_eq]
      cases stop? failFast [r] with
      | some f => rfl
      | none =>
          rw [← append_append]
          exact ih (before + 1) (first.append before (account [r]))

/-- **A batch stops at a failure or accounts for all of its rows.** -/
theorem ofRows_eq (failFast : Bool) (rows : List (RowOutcome α)) :
    ofRows failFast rows =
      match stop? failFast rows with
      | some f => .error f
      | none => .ok (account rows) := by
  have all := foldlM_addRow_eq failFast rows 0 empty
  rw [empty_append] at all
  exact all

theorem ofRows_eq_error_iff {failFast : Bool} {rows : List (RowOutcome α)} {f : Failure} :
    ofRows failFast rows = .error f ↔ stop? failFast rows = some f := by
  rw [ofRows_eq]
  cases stop? failFast rows <;> simp

theorem ofRows_eq_ok_iff {failFast : Bool} {rows : List (RowOutcome α)} {o : BatchOutcome α} :
    ofRows failFast rows = .ok o ↔ stop? failFast rows = none ∧ o = account rows := by
  rw [ofRows_eq]
  cases stop? failFast rows <;> simp [eq_comm]

/-- **Rows after others come to the same as alone**, numbered on from those before them. -/
theorem ofRows_append (failFast : Bool) (xs ys : List (RowOutcome α)) :
    ofRows failFast (xs ++ ys) = (do
      let first ← ofRows failFast xs
      let last ← ofRows failFast ys
      return first.append xs.length last) := by
  rw [ofRows_eq, ofRows_eq, ofRows_eq, stop?_append, account_append]
  cases stop? failFast xs with
  | some f => rfl
  | none => cases stop? failFast ys <;> rfl

/-- A batch has the items and the issues of its rows. -/
theorem ofRows_eq_ok {failFast : Bool} {rows : List (RowOutcome α)} {o : BatchOutcome α}
    (h : ofRows failFast rows = .ok o) :
    o.items = rows.filterMap RowOutcome.item? ∧
      o.report.issues = (rows.zipIdx 1).flatMap fun numbered => numbered.1.issues numbered.2 := by
  obtain ⟨-, rfl⟩ := ofRows_eq_ok_iff.1 h
  exact ⟨rfl, rfl⟩

/-- The issues about one row are those of that row. -/
theorem mem_issues_iff {failFast : Bool} {rows : List (RowOutcome α)} {o : BatchOutcome α}
    (h : ofRows failFast rows = .ok o) {n : Nat} {r : RowOutcome α} (at_n : rows[n]? = some r)
    {issue : Issue} :
    (issue ∈ o.report.issues ∧ issue.row = some (n + 1)) ↔ issue ∈ r.issues (n + 1) := by
  rw [(ofRows_eq_ok h).2, List.mem_flatMap]
  constructor
  · rintro ⟨⟨⟨r', row⟩, numbered, mem⟩, about⟩
    rw [RowOutcome.row_of_mem_issues mem] at about
    have same : row = n + 1 := Option.some.inj about
    subst same
    obtain ⟨-, found⟩ := List.mk_mem_zipIdx_iff_le_and_getElem?_sub.1 numbered
    rw [Nat.add_sub_cancel, at_n] at found
    cases found
    exact mem
  · intro mem
    refine ⟨⟨(r, n + 1), ?_, mem⟩, RowOutcome.row_of_mem_issues mem⟩
    rw [List.mk_mem_zipIdx_iff_le_and_getElem?_sub]
    exact ⟨by omega, by simpa using at_n⟩

end BatchOutcome

/-! ## Rows in any order -/

end GridRecords
