/-
# Arguments

An entity is built from arguments, one per parameter of its kind.  The getters narrow an
argument to the type a builder needs; an argument that is absent or of another type is a
`BuildFault`, and so is a broken domain rule.
-/
import GridRecords.Model.Value

namespace GridRecords

/-- Why an entity was not built. -/
inductive BuildFault where
  | missing (name : String)
  | mismatch (name expected : String) (found : Value)
  | noCoordinate
  | violation (v : Violation)

/-- Wording of a build fault. -/
def BuildFault.message : BuildFault → String
  | .missing name => s!"missing value for '{name}'"
  | .mismatch name expected found =>
    s!"'{name}' expects a {expected}, got a {found.typeName} ({found.display})"
  | .noCoordinate => "a weather value needs a coordinate"
  | .violation v => s!"Validation error: {v.message}"

/-- The outcome of building something. -/
abbrev Build := Except BuildFault

/-- A checked part of an entity. -/
def Build.checked {α : Type} (r : Except Violation α) : Build α := r.mapError .violation

/-- Values by parameter name, in the order of the parameters. -/
structure Arguments where
  values : List (String × Value)

namespace Arguments

/-- The value of a parameter; one that is not listed is absent. -/
def get (a : Arguments) (name : String) : Value := (lookup a.values).getD .null
where
  lookup : List (String × Value) → Option Value
    | [] => none
    | (n, v) :: rest => if n = name then some v else lookup rest

/-- Narrows a value that must be there. -/
def required {α : Type} (a : Arguments) (name expected : String) (pick : Value → Option α) :
    Build α :=
  match a.get name with
  | .null => .error (.missing name)
  | v => match pick v with
    | some x => .ok x
    | none => .error (.mismatch name expected v)

/-- Narrows a value that may be absent. -/
def optional {α : Type} (a : Arguments) (name expected : String) (pick : Value → Option α) :
    Build (Option α) :=
  match a.get name with
  | .null => .ok none
  | _ => (a.required name expected pick).map some

/-! ## Getters -/

/-- A uuid. -/
def uuid (a : Arguments) (name : String) : Build Uuid :=
  a.required name "uuid" fun | .uuid u => some u | _ => none

/-- A text. -/
def text (a : Arguments) (name : String) : Build String :=
  a.required name "string" fun | .text s => some s | _ => none

/-- A text; an absent one is empty. -/
def textOrEmpty (a : Arguments) (name : String) : Build String := do
  return (← a.optional name "string" fun | .text s => some s | _ => none).getD ""

/-- A boolean. -/
def boolean (a : Arguments) (name : String) : Build Bool :=
  a.required name "boolean" fun | .bool b => some b | _ => none

/-- A whole number. -/
def integer (a : Arguments) (name : String) : Build Int :=
  a.required name "integer" fun | .int n => some n | _ => none

/-- A quantity. -/
def quantity (a : Arguments) (name : String) : Build Quantity :=
  a.required name "quantity" fun | .quantity q => some q | _ => none

/-- A timestamp. -/
def timestamp (a : Arguments) (name : String) : Build Timestamp :=
  a.required name "timestamp" fun | .timestamp t => some t | _ => none

/-- A timestamp that may be absent. -/
def timestamp? (a : Arguments) (name : String) : Build (Option Timestamp) :=
  a.optional name "timestamp" fun | .timestamp t => some t | _ => none

/-- A position; it may be absent, and it may say that there is none. -/
def geoPoint (a : Arguments) (name : String) : Build (Option GeoPoint) := do
  return (← a.optional name "geo-point" fun | .geoPoint p => some p | _ => none).join

/-- The entity in a value, if it is of the kind that `pick` takes. -/
def picked {α : Type} (pick : Entity → Option α) : Value → Option α
  | .entity e => pick e
  | _ => none

/-- What a mismatched reference should have been. -/
def referenceWanted : String := "reference of the declared kind"

/-- A referenced entity of one kind. -/
def reference {α : Type} (a : Arguments) (name : String) (pick : Entity → Option α) : Build α :=
  a.required name referenceWanted (picked pick)

/-- A referenced entity of one kind that may be absent. -/
def reference? {α : Type} (a : Arguments) (name : String) (pick : Entity → Option α) :
    Build (Option α) :=
  a.optional name referenceWanted (picked pick)

/-- The operator; an absent one is the placeholder. -/
def operator (a : Arguments) : Build Operator := do
  return (← a.reference? "operator" Entity.operator?).getD .unassigned

/-- The operation time between the two bounds, either of which may be absent. -/
def operationTime (a : Arguments) : Build OperationTime := do
  let start ← a.timestamp? "operatesfrom"
  let finish ← a.timestamp? "operatesuntil"
  Build.checked (OperationTime.checked start finish)

/-- What all operated assets have. -/
def asset (a : Arguments) : Build Asset := do
  let uuid ← a.uuid "uuid"
  let id ← a.text "id"
  let operator ← a.operator
  let operationTime ← a.operationTime
  return { uuid, id, operator, operationTime }

end Arguments

end GridRecords
