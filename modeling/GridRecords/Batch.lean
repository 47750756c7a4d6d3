/-
# Batches

Many rows of one kind are decoded, or many entities flattened, one after the other.  A row that
fails is skipped and noted; the batch as a whole fails with the first failure that concerns the
setup or, when it is to fail fast, with the first failure.

`BatchOutcome.ofRows` puts the outcomes of the rows together.  Threads come to the rows in an order
of their own, and what they installed in the registry all of them find there; `inRowOrder` puts the
outcomes back into the order of the rows.
-/
import GridRecords.Decode.Entity
import GridRecords.Decode.Reference
import GridRecords.Report.Diagnostics
import GridRecords.Row.Flatten

namespace GridRecords

/-- What one row came to. -/
structure RowOutcome (α : Type) where
  /-- the row in messages -/
  label : String
  /-- the mapped item with the references that were substituted in it -/
  result : Except Failure (α × List Substitution)

/-- The items of the rows that were mapped, in order, and what happened to the others. -/
structure BatchOutcome (α : Type) where
  items : List α
  report : BatchReport

namespace BatchOutcome

variable {α : Type}

/-- No row was mapped yet. -/
def empty : BatchOutcome α := ⟨[], .empty⟩

/-- Whether no row was skipped. -/
def isClean (o : BatchOutcome α) : Bool := o.report.isClean

/-- Category of the warnings about substituted references. -/
def referenceCategory : String := "reference"

/-- Adds an item, with a warning for each substitution. -/
def addItem (o : BatchOutcome α) (row : Nat) (label : String) (item : α)
    (substitutions : List Substitution) : BatchOutcome α :=
  let warned := substitutions.foldl
    (fun report s => report.warn row label referenceCategory s.text) o.report
  ⟨o.items ++ [item], warned.success⟩

/-- Adds what the row of a number came to. -/
def addRow (failFast : Bool) (o : BatchOutcome α) (row : Nat) (r : RowOutcome α) :
    Except Failure (BatchOutcome α) :=
  match r.result with
  | .ok (item, substitutions) => .ok (o.addItem row r.label item substitutions)
  | .error f =>
    if f.isConfiguration || failFast then .error f
    else .ok { o with report := o.report.failure row r.label f }

/-- Puts rows together, which are numbered from one. -/
def ofRows (failFast : Bool) (rows : List (RowOutcome α)) : Except Failure (BatchOutcome α) :=
  (rows.zipIdx 1).foldlM (fun o (r, row) => o.addRow failFast row r) empty

end BatchOutcome

/-- A row of a kind in messages: with its id if it has one. -/
def FieldRecord.label (r : FieldRecord) (kind : EntityKind) : String :=
  match r.get? "id" with
  | some id => s!"{kind.name} '{id}'"
  | none => kind.name

/-- Decodes one row, its references resolved through an index. -/
def ReferenceIndex.decodeRow (i : ReferenceIndex) (s : Schema) (kind : EntityKind)
    (r : FieldRecord) : Decoding (Entity × List Substitution) := do
  let resolution ← Decoding.lift (i.resolve s r)
  let e ← Registry.decodeEntity kind r resolution.context
  return (e, resolution.substitutions)

/-- Decodes rows of a kind, each on its own.  All that decoding them can ask for is prepared before
the first row. -/
def ReferenceIndex.decodeRows (i : ReferenceIndex) (kind : EntityKind) (rows : List FieldRecord) :
    Decoding (List (RowOutcome Entity)) := do
  Registry.prepare [kind]
  let schema ← Registry.schemaFor kind
  rows.mapM fun r => do
    let result ← Decoding.attempt (i.decodeRow schema kind r)
    return ⟨r.label kind, result⟩

/-- Decodes rows of a kind as one batch. -/
def ReferenceIndex.decodeBatch (i : ReferenceIndex) (failFast : Bool) (kind : EntityKind)
    (rows : List FieldRecord) : Decoding (BatchOutcome Entity) := do
  Decoding.lift (BatchOutcome.ofRows failFast (← i.decodeRows kind rows))

/-- What flattening an entity comes to. -/
def Entity.flattenRow (e : Entity) : RowOutcome FlatRecord := ⟨e.describe, e.flatten.map (·, [])⟩

/-- Flattens entities. -/
def flattenBatch (failFast : Bool) (es : List Entity) :
    Except Failure (BatchOutcome FlatRecord) :=
  BatchOutcome.ofRows failFast (es.map Entity.flattenRow)

end GridRecords
