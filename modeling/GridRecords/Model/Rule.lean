/-
# Domain rules

Entities are built by functions that check the rules of the domain.  A broken rule is a
`Violation`; the checks that several kinds share stand here.
-/
import GridRecords.Decimal.Layout
import GridRecords.Quantity.Basic
import GridRecords.Time.Timestamp
import GridRecords.Uuid

namespace GridRecords

-- powers are those of the core library, whatever else is imported beside this module
attribute [local instance (2000)] instPowNat

/-- A broken domain rule. -/
inductive Violation where
  /-- a quantity cannot be expressed in the unit its field is held in -/
  | unit (what : String) (error : UnitFault)
  /-- a number is negative, infinite or undefined -/
  | negative (what : String) (found : Float)
  /-- a subnet is negative or too large -/
  | subnet (found : Int)
  /-- a line has no parallel device, or too many -/
  | parallelDevices (found : Int)
  /-- a power factor lies outside the unit interval -/
  | powerFactor (found : Float)
  /-- the efficiencies of a plant add up to more than the whole -/
  | efficiency (electrical thermal : Float)
  /-- a storage gives water back warmer than it takes it in -/
  | temperatures (back inlet : Quantity)
  /-- an energy manager is its own parent -/
  | ownParent (manager : Uuid)
  /-- a plant and its storage are on different thermal buses -/
  | storageBus (storage attached wanted : Uuid)
  /-- an operator has the uuid that means no operator -/
  | reservedOperator (id : String) (uuid : Uuid)
  /-- an operation time ends before it starts -/
  | operationTime (start finish : Timestamp)
  /-- a time series has entries of two families -/
  | mixedFamilies (series : Uuid) (first odd : String)
deriving Repr

/-- Wording of a broken rule. -/
def Violation.message : Violation → String
  | .unit what error => s!"{what}: {error.message}"
  | .negative what found =>
    what ++ " must be a non-negative number, got " ++ Decimal.plain.text found
  | .subnet found => s!"subnet must be a non-negative number, got {found}"
  | .parallelDevices found => s!"a line needs at least one parallel device, got {found}"
  | .powerFactor found =>
    "rated power factor must lie in [0, 1], got " ++ Decimal.plain.text found
  | .efficiency electrical thermal =>
    "combined efficiency exceeds 100 % (" ++ Decimal.plain.text electrical ++ " % + "
      ++ Decimal.plain.text thermal ++ " %)"
  | .temperatures back inlet =>
    s!"return temperature ({back.text}) exceeds inlet temperature ({inlet.text})"
  | .ownParent manager => s!"energy manager {manager.text} cannot be its own parent"
  | .storageBus storage attached wanted =>
    s!"storage {storage.text} is attached to thermal bus {attached.text}, not {wanted.text}"
  | .reservedOperator id uuid =>
    s!"operator {id}: uuid {uuid.text} is reserved for unassigned assets"
  | .operationTime start finish =>
    s!"operation starts ({start.spacedText}) after it ends ({finish.spacedText})"
  | .mixedFamilies series first odd =>
    s!"time series {series.text} mixes {first} and {odd} entries"

/-- Expresses a quantity in the unit its field is held in. -/
def heldIn (what : String) (q : Quantity) (unit : MeasureUnit) : Except Violation Quantity :=
  (q.convert unit).mapError (.unit what)

/-- Accepts numbers from zero on. -/
def atLeastZero (what : String) (x : Float) : Except Violation PUnit :=
  if x < 0.0 ∨ ¬ x.isFinite then .error (.negative what x) else .ok ⟨⟩

/-- A whole number of thirty-two bits. -/
def word? (n : Int) : Option UInt32 :=
  if 0 ≤ n ∧ n < 2 ^ (32 : Nat) then some (UInt32.ofNat n.toNat) else none

end GridRecords
