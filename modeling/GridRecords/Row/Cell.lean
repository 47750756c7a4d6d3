/-
# The text of a field

A quantity is expressed in the output unit of its field before it is written.  A reference is
written as the uuid of the entity it leads to, and the placeholder for no operator, like every
absent value, as empty text.
-/
import GridRecords.Leaf.Codec
import GridRecords.Report.Failure
import GridRecords.Row.OutputUnit

namespace GridRecords

/-- Expresses a quantity in the output unit of its field. -/
def normalize (kind : EntityKind) (field : String) (q : Quantity) : Except Failure Quantity :=
  match kind.outputUnit? field with
  | none => .error (.unrecognizedQuantityField kind field q.text)
  | some unit => (q.convert unit).mapError fun e => .flatten kind field q.text e.message

/-- The text of a value in a field of a kind. -/
def cellText (kind : EntityKind) (field : String) (value : Value) : Except Failure String :=
  let failed (reason : String) : Failure := .flatten kind field value.display reason
  match value with
  | .null => .ok ""
  | .quantity q => do
    match amountText? (← normalize kind field q).value with
    | some written => return written
    | none => throw (failed "not a finite number")
  | .entity e =>
    if e.isUnassigned then .ok ""
    else match e.uuid? with
      | some uuid => .ok uuid.text
      | none => .error (failed s!"a {e.kind.name} cannot be referenced")
  | plain =>
    match LeafKind.ofValue? plain with
    | some leaf => (leaf.encode plain).mapError fun e => failed e.message
    | none => .error (failed s!"no encoder for {plain.typeName}")

end GridRecords
