/-
# References

Records refer to other entities by uuid.  A `ReferenceIndex` holds the entities that are known,
and `ReferenceIndex.resolve` finds those that a record refers to.  They become the context in
which the record is decoded.

An unknown operator is left out, so that the asset has no operator, and is noted as a
substitution.  Any other unknown reference is left out as well.
-/
import GridRecords.Schema.Basic
import GridRecords.Text.Blank

namespace GridRecords

/-- A reference that was replaced by a default. -/
structure Substitution where
  /-- the field that holds the reference -/
  field : String
  uuid : Uuid
  replacement : String
deriving DecidableEq, Repr

/-- Wording of a substitution. -/
def Substitution.text (s : Substitution) : String :=
  s!"unknown {s.field} {s.uuid.text}, using {s.replacement}"

/-- What the references of a record come to. -/
structure Resolution where
  /-- the known entities, by the parameter that refers to them -/
  context : Context
  substitutions : List Substitution

/-- Entities by uuid. -/
structure ReferenceIndex where
  entities : List (Uuid × Entity)

namespace ReferenceIndex

/-- The index of no entities. -/
def empty : ReferenceIndex := ⟨[]⟩

/-- The entity of a uuid. -/
def get? (i : ReferenceIndex) (uuid : Uuid) : Option Entity := i.entities.lookup uuid

/-- Whether a uuid is known. -/
def contains (i : ReferenceIndex) (uuid : Uuid) : Bool := (i.get? uuid).isSome

/-- Number of entities. -/
def size (i : ReferenceIndex) : Nat := i.entities.length

/-- Whether no entity is known. -/
def isEmpty (i : ReferenceIndex) : Bool := i.entities.isEmpty

/-- The entity that an entity would take the place of. -/
def replaced? (i : ReferenceIndex) (e : Entity) : Option Entity := e.uuid?.bind i.get?

/-- Adds an entity, in place of the one with its uuid.  Entities without a uuid are not held. -/
def insert (i : ReferenceIndex) (e : Entity) : ReferenceIndex :=
  match e.uuid? with
  | none => i
  | some uuid => ⟨(uuid, e) :: i.entities.filter fun entry => entry.1 != uuid⟩

/-- Adds entities one after the other. -/
def insertAll (i : ReferenceIndex) (es : List Entity) : ReferenceIndex := es.foldl insert i

/-- The index of some entities. -/
def ofList (es : List Entity) : ReferenceIndex := empty.insertAll es

/-! ## Resolution -/

/-- What stands in for an unknown operator. -/
def operatorReplacement : String := "no operator assigned"

/-- What one reference comes to. -/
inductive Outcome where
  /-- the field is missing or blank -/
  | absent
  | found (e : Entity)
  | substituted (s : Substitution)
  /-- no entity is known under the uuid -/
  | unknown

/-- Looks up the uuid that a field holds. -/
def find (i : ReferenceIndex) (name : String) (kind : EntityKind) (uuid : Uuid) (raw : String) :
    Except Failure Outcome :=
  match i.get? uuid with
  | some e =>
    if e.kind = kind then .ok (.found e)
    else .error (.parsing kind.name raw s!"'{name}' references a {e.kind.name}")
  | none =>
    if kind = .operator then .ok (.substituted ⟨name, uuid, operatorReplacement⟩)
    else .ok .unknown

/-- Looks up what a field of a record refers to. -/
def lookField (i : ReferenceIndex) (r : FieldRecord) (name : String) (kind : EntityKind) :
    Except Failure Outcome :=
  match r.get? name with
  | none => .ok .absent
  | some raw =>
    let text := String.ofList (Text.trim raw.toList)
    if text.isEmpty then .ok .absent
    else match Uuid.read text with
      | .error fault => .error (.parsing kind.name text fault.message)
      | .ok uuid => i.find name kind uuid text

/-- Finds what a record of a schema refers to. -/
def resolve (i : ReferenceIndex) (s : Schema) (r : FieldRecord) : Except Failure Resolution := do
  let outcomes ← s.references.mapM fun (name, kind) => do
    return (name, ← i.lookField r name kind)
  let known := outcomes.filterMap fun
    | (name, .found e) => some (name, Value.entity e)
    | _ => none
  let substitutions := outcomes.filterMap fun
    | (_, .substituted s) => some s
    | _ => none
  return ⟨.ofList known, substitutions⟩

end ReferenceIndex

end GridRecords
