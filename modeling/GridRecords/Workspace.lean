/-
# Workspaces

A workspace keeps entities under names, next to a registry and an index of references.  An
entity may be held under several names and in the index at once: it is then one instance, and
its serial number tells.  Decoding makes a new instance unless the context already holds the
entity, whose instance it then is.
-/
import GridRecords.Batch
import GridRecords.Schema.Builtin

namespace GridRecords

/-- An entity with the serial number of its instance. -/
structure Held where
  entity : Entity
  serial : Nat

namespace Held

/-- Whether two entities are one instance. -/
def isShared (a b : Held) : Bool := a.entity.kind == b.entity.kind && a.serial == b.serial

/-- Whether two entities have the same key, or neither has one. -/
def hasSameKey (a b : Held) : Bool := a.entity.key? == b.entity.key?

end Held

/-- What is known ahead of decoding, with the serial numbers of the entities in it. -/
structure Surroundings where
  context : Context
  serials : Table Nat

namespace Surroundings

/-- Nothing is known. -/
def empty : Surroundings := ⟨.empty, .empty⟩

/-- Adds a value that is no entity. -/
def insert (s : Surroundings) (name : String) (value : Value) : Surroundings :=
  { s with context := s.context.insert name value }

/-- Adds an entity. -/
def insertHeld (s : Surroundings) (name : String) (held : Held) : Surroundings :=
  ⟨s.context.insert name (.entity held.entity), s.serials.insert name held.serial⟩

/-- The serial number of the entity of a kind that decoding finds in the context. -/
def serial? (s : Surroundings) (kind : EntityKind) : Option Nat :=
  (kind.known? s.context).bind fun _ => s.serials.get? kind.key

end Surroundings

/-- Entities under names, with a registry and an index. -/
structure Workspace where
  registry : Registry
  index : ReferenceIndex
  /-- serial numbers of the entities in the index -/
  indexed : List (Uuid × Nat)
  slots : List (String × Held)
  /-- the serial number of the next instance -/
  next : Nat

/-- A computation on a workspace that may fail.  What it did before it failed stays done. -/
abbrev Working := ExceptT Failure (StateM Workspace)

/-- A computation on the registry of a workspace. -/
def Working.decoding {α : Type} (x : Decoding α) : Working α := fun w =>
  let (result, registry) := x w.registry
  (result, { w with registry })

/-- A result that does not depend on the workspace. -/
def Working.lift {α : Type} (r : Except Failure α) : Working α := fun w => (r, w)

namespace Workspace

/-- The name under which every workspace holds the placeholder for no operator. -/
def unassignedName : String := "no_operator"

/-- The workspace of a new registry. -/
def new (schemas : EntityKind → Option Schema) (policy : BooleanPolicy) : Workspace :=
  { registry := .new schemas policy
    index := .empty
    indexed := []
    slots := [(unassignedName, ⟨.operator .unassigned, 0⟩)]
    next := 1 }

/-- The schemas of some kinds, each the built-in one of a kind that need not be the same. -/
def servedSchemas (served : List (EntityKind × EntityKind)) (kind : EntityKind) :
    Option Schema :=
  (served.lookup kind).map .builtin

/-! ## Names -/

/-- The entity under a name. -/
def find? (w : Workspace) (name : String) : Option Held := w.slots.lookup name

/-- Holds an entity under a name: the instance of a serial number, or a new one. -/
def hold (w : Workspace) (name : String) (e : Entity) : Option Nat → Workspace
  | some serial => { w with slots := (name, ⟨e, serial⟩) :: w.slots }
  | none => { w with slots := (name, ⟨e, w.next⟩) :: w.slots, next := w.next + 1 }

/-- Holds an entity under a name, if there is one. -/
def keep (w : Workspace) (name : Option String) (e : Entity) (serial : Option Nat) : Workspace :=
  match name with
  | some name => w.hold name e serial
  | none => w

/-- Holds entities under a name, if there is one, and their numbers from zero on. -/
def keepAll (w : Workspace) (name : Option String) (es : List (Entity × Option Nat)) :
    Workspace :=
  es.zipIdx.foldl (fun w ((e, serial), i) => w.keep (name.map fun n => s!"{n}{i}") e serial) w

/-! ## The index -/

/-- Adds an entity to the index. -/
def insert (w : Workspace) (held : Held) : Workspace :=
  match held.entity.uuid? with
  | none => w
  | some uuid =>
    { w with
      index := w.index.insert held.entity
      indexed := (uuid, held.serial) :: w.indexed }

/-- What the references of a record add to its surroundings. -/
def surroundings (w : Workspace) (resolution : Resolution) : Surroundings :=
  let serials := resolution.context.entries.filterMap fun
    | (name, .entity e) => (e.uuid?.bind fun uuid => w.indexed.lookup uuid).map (name, ·)
    | _ => none
  ⟨resolution.context, .ofList serials⟩

/-- Finds what a record of a kind refers to. -/
def resolve (kind : EntityKind) (r : FieldRecord) : Working Resolution := do
  let schema ← Working.decoding (Registry.schemaFor kind)
  Working.lift ((← get).index.resolve schema r)

/-! ## Decoding -/

/-- Decodes a record and keeps the entity under a name. -/
def decode (kind : EntityKind) (r : FieldRecord) (s : Surroundings) (name : Option String) :
    Working Entity := do
  let e ← Working.decoding (Registry.decodeEntity kind r s.context)
  modify (·.keep name e (s.serial? kind))
  return e

/-- Builds an entity from a record, whatever is known, and keeps it under a name. -/
def construct (kind : EntityKind) (r : FieldRecord) (s : Surroundings) (name : Option String) :
    Working Entity := do
  let e ← Working.decoding (Registry.construct kind r s.context)
  modify (·.keep name e none)
  return e

/-- Writes an entity, reads the row again and keeps what comes out under a name.  The answer also
says whether it is equal to the entity. -/
def roundTrip (e : Entity) (name : Option String) : Working (Bool × Entity) := do
  let flat ← Working.lift e.flatten
  let resolution ← resolve e.kind flat.toRecord
  let again ← decode e.kind flat.toRecord ((← get).surroundings resolution) name
  return (again == e, again)

/-- Decodes rows of a kind as one batch and keeps the items under a name and their numbers. -/
def decodeBatch (failFast : Bool) (kind : EntityKind) (rows : List FieldRecord)
    (name : Option String) : Working (BatchOutcome Entity) := do
  let outcomes ← Working.decoding ((← get).index.decodeRows kind rows)
  let outcome ← Working.lift (BatchOutcome.ofRows failFast outcomes)
  let schema ← Working.decoding (Registry.schemaFor kind)
  let w ← get
  let kept := (rows.zip outcomes).filterMap fun (r, o) =>
    match o.result, w.index.resolve schema r with
    | .ok (e, _), .ok resolution => some (e, (w.surroundings resolution).serial? kind)
    | _, _ => none
  set (w.keepAll name kept)
  return outcome

end Workspace

end GridRecords
