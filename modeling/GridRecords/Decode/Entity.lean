/-
# Decoding entities

An entity is built from the arguments that its record and its context give for the parameters
of its schema.  What the context knows wins over the text of the record; entities embedded in
the record are decoded from their own fields.

`Registry.decode` decodes a record to any target.  A context that already holds the entity under
the key of its kind is believed, and the record is not read at all.
-/
import GridRecords.Decode.Registry

namespace GridRecords

/-- Decodes the entity of a kind that is embedded in a record. -/
abbrev NestedDecoder := EntityKind → FieldRecord → Context → Decoding Value

/-- The argument for a parameter that takes part in the signature of a record. -/
def Parameter.argument (p : Parameter) (nested : NestedDecoder) (r : FieldRecord) (c : Context) :
    Decoding Value :=
  match c.get? p.name with
  | some value => pure value
  | none =>
    match p.source with
    | .direct leaf =>
      match r.get? p.name with
      | some raw => Registry.decodeField leaf raw
      | none => pure .null
    | .nested target fields =>
      let inner := r.restrict fields
      let known := c.restrict fields
      if inner.isEmpty && known.isEmpty then pure .null else nested target inner known
    | .reference _ => pure .null

namespace Schema

/-- One argument per parameter.  Parameters outside the signature are absent. -/
def arguments (s : Schema) (signature : Signature) (nested : NestedDecoder) (r : FieldRecord)
    (c : Context) : Decoding Arguments := do
  let values ← s.parameters.mapM fun p => do
    let value ← if signature.binds p.name then p.argument nested r c else pure .null
    return (p.name, value)
  return ⟨values⟩

/-- The failure of a builder, with the arguments by name. -/
def fault (s : Schema) (a : Arguments) (f : BuildFault) : Failure :=
  .construction s.kind f.message
    (Table.ofList (a.values.map fun (name, value) => (name, value.display))).entries

/-- Builds the entity of a record in a context. -/
def construct (s : Schema) (nested : NestedDecoder) (r : FieldRecord) (c : Context) :
    Decoding Entity := do
  let signature ← Decoding.lift (s.select r c)
  let arguments ← s.arguments signature nested r c
  Decoding.lift ((signature.build arguments).mapError (s.fault arguments))

end Schema

/-- The entity that a context holds under the key of its kind. -/
def EntityKind.known? (kind : EntityKind) (c : Context) : Option Entity :=
  match c.get? kind.key with
  | some (.entity e) => if e.kind = kind then some e else none
  | _ => none

namespace Registry

/-- Decodes a record to an entity, with entities nested in each other to a depth.

The failure for want of depth is none of decoding itself, which would not end there: only schemas
that nest into themselves come to it. -/
def decodeWithin : Nat → NestedDecoder
  | 0, kind, _, _ => throw (.config s!"{kind.name} catalog: nests too deeply")
  | depth + 1, kind, r, c =>
    match kind.known? c with
    | some e => pure (.entity e)
    | none => do
      match ← resolve (.entity kind) with
      | .composite schema => Value.entity <$> schema.construct (decodeWithin depth) r c
      | .leaf leaf policy => Decoding.lift (leaf.decodeRecord policy r c)

/-- Decodes an entity embedded in a record.  Schemas that do not nest into themselves nest at most
as deeply as there are kinds. -/
def decodeNested : NestedDecoder := decodeWithin EntityKind.all.length

/-- Decodes a record to a value of a target. -/
def decode (target : Target) (r : FieldRecord) (c : Context) : Decoding Value :=
  match target with
  | .entity kind => decodeNested kind r c
  | .leaf kind => do
    match ← resolve (.leaf kind) with
    | .leaf leaf policy => Decoding.lift (leaf.decodeRecord policy r c)
    | .composite schema => Value.entity <$> schema.construct decodeNested r c

/-- Decodes a record to an entity of a kind. -/
def decodeEntity (kind : EntityKind) (r : FieldRecord) (c : Context) : Decoding Entity := do
  match ← decode (.entity kind) r c with
  | .entity e => return e
  | other => throw (.construction kind s!"decoded a {other.typeName} instead of an entity" [])

/-- Builds an entity of a kind from a record, whatever the context holds under the kind's key. -/
def construct (kind : EntityKind) (r : FieldRecord) (c : Context) : Decoding Entity := do
  (← schemaFor kind).construct decodeNested r c

end Registry

end GridRecords
