/-
# Operators and operation times

Assets have an operator and a time window in which they operate.  An asset without an operator
holds the placeholder `Operator.unassigned`, whose uuid no other operator may have.
-/
import GridRecords.Model.Rule

namespace GridRecords

/-! ## Operators -/

/-- The company responsible for an asset. -/
structure Operator where
  uuid : Uuid
  id : String
deriving DecidableEq, Repr

namespace Operator

/-- The uuid that means no operator. -/
def reservedUuid : Uuid := ⟨0xf15105c4a2de4ab8a6214bc98e372d92#128⟩

/-- The placeholder for assets without an operator.  It is never persisted. -/
def unassigned : Operator := ⟨reservedUuid, "NO_OPERATOR_ASSIGNED"⟩

/-- Whether an operator is the placeholder. -/
def isUnassigned (o : Operator) : Bool := o.uuid == reservedUuid

/-- An operator with a uuid of its own. -/
def checked (uuid : Uuid) (id : String) : Except Violation Operator :=
  if uuid = reservedUuid then .error (.reservedOperator id uuid) else .ok ⟨uuid, id⟩

end Operator

/-! ## Operation times -/

/-- The time in which an asset operates.  Either bound may be open. -/
structure OperationTime where
  start : Option Timestamp
  finish : Option Timestamp
deriving BEq, Repr

namespace OperationTime

/-- No bound on either side. -/
def unlimited : OperationTime := ⟨none, none⟩

/-- A window whose start, if it has both bounds, is no later than its end. -/
def checked (start finish : Option Timestamp) : Except Violation OperationTime :=
  match start, finish with
  | some s, some f =>
    if f.isBefore s then .error (.operationTime s f) else .ok ⟨some s, some f⟩
  | _, _ => .ok ⟨start, finish⟩

/-- Whether the window has a bound. -/
def isLimited (w : OperationTime) : Bool := w.start.isSome || w.finish.isSome

/-- Whether an instant lies in the window, its bounds included. -/
def includes (w : OperationTime) (t : Timestamp) : Bool :=
  w.start.all (·.isAtMost t) && w.finish.all (t.isAtMost ·)

end OperationTime

/-! ## Assets -/

/-- What all operated assets have. -/
structure Asset where
  uuid : Uuid
  id : String
  operator : Operator
  operationTime : OperationTime
deriving BEq, Repr

/-- Whether an asset operates at an instant. -/
def Asset.operatesAt (a : Asset) (t : Timestamp) : Bool := a.operationTime.includes t

end GridRecords
