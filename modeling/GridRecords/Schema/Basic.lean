/-
# Schemas

A schema says how entities of one kind are built from records.  It lists the parameters of the
kind with the fields each one consumes, and the signatures: the sets of parameters that a record
may supply, each with its builder.

The main function is `Schema.select`: the names that a record and its context supply must be the
fields of exactly one signature.  Fields that all signatures share do not count, so that a
record without one of them is still recognised and fails when the entity is built.
-/
import GridRecords.Leaf.Kind
import GridRecords.Record.Fields
import GridRecords.Report.Failure
import GridRecords.Schema.Arguments

namespace GridRecords

/-- Where the value of a parameter comes from. -/
inductive Source where
  /-- the field of the parameter's name -/
  | direct (leaf : LeafKind)
  /-- a group of fields, decoded as an entity of another kind -/
  | nested (target : EntityKind) (fields : List String)
  /-- the context only: an entity that the record refers to -/
  | reference (target : EntityKind)
deriving DecidableEq, Repr

/-- A parameter of a kind. -/
structure Parameter where
  name : String
  source : Source
deriving DecidableEq, Repr

/-- The fields that a parameter consumes. -/
def Parameter.fields (p : Parameter) : List String :=
  match p.source with
  | .nested _ fields => fields
  | .direct _ | .reference _ => [p.name]

/-- Builds an entity from its arguments. -/
abbrev Builder := Arguments → Build Entity

/-- A set of parameters that a record may supply, with the builder for it. -/
structure Signature where
  name : String
  parameters : List String
  build : Builder

/-- Whether a parameter takes part in a signature. -/
def Signature.binds (s : Signature) (parameter : String) : Bool := s.parameters.contains parameter

/-- How entities of a kind are built from records. -/
structure Schema where
  kind : EntityKind
  parameters : List Parameter
  signatures : List Signature

/-- Names in order, each once. -/
def sortedNames (names : List String) : List String :=
  (Table.ofList (names.map fun name => (name, PUnit.unit))).keys

namespace Schema

/-- The parameter of a name. -/
def parameter? (s : Schema) (name : String) : Option Parameter :=
  s.parameters.find? (·.name = name)

/-- All fields that some parameter consumes. -/
def known (s : Schema) : List String := sortedNames (s.parameters.flatMap Parameter.fields)

/-- The fields of the parameters that a signature binds. -/
def fieldsOf (s : Schema) (signature : Signature) : List String :=
  sortedNames (signature.parameters.flatMap fun name =>
    ((s.parameter? name).map Parameter.fields).getD [])

/-- The fields of every signature. -/
def shared (s : Schema) : List String :=
  match s.signatures.map s.fieldsOf with
  | [] => []
  | first :: rest => first.filter fun field => rest.all (·.contains field)

/-- The fields of a signature that not all signatures have. -/
def distinct (s : Schema) (signature : Signature) : List String :=
  (s.fieldsOf signature).filter (!s.shared.contains ·)

/-- The parameters that refer to other entities, each with the kind it refers to. -/
def references (s : Schema) : List (String × EntityKind) :=
  s.parameters.filterMap fun p =>
    match p.source with
    | .reference target => some (p.name, target)
    | .direct _ | .nested .. => none

/-- The kinds of the entities embedded in others, in the order of their parameters. -/
def nestedKinds (s : Schema) : List EntityKind :=
  s.parameters.filterMap fun p =>
    match p.source with
    | .nested target _ => some target
    | .direct _ | .reference _ => none

/-! ## Selection -/

/-- The known names among those of a record and its context. -/
def supplied (s : Schema) (r : FieldRecord) (c : Context) : List String :=
  sortedNames ((r.keys ++ c.keys).filter s.known.contains)

/-- The signatures whose fields, the shared ones apart, are the given names. -/
def fitting (s : Schema) (names : List String) : List Signature :=
  let open_ := names.filter (!s.shared.contains ·)
  s.signatures.filter fun signature => s.distinct signature == open_

/-- The signature for a record in a context. -/
def select (s : Schema) (r : FieldRecord) (c : Context) : Except Failure Signature :=
  let supplied := s.supplied r c
  match s.fitting supplied with
  | [one] => .ok one
  | found =>
    .error (.noMatchingSignature s.kind supplied (s.signatures.map s.fieldsOf) found.length)

/-! ## Soundness of a schema -/

/-- What makes a schema unusable. -/
inductive Defect where
  | noSignature
  | unknownParameter (name : String)
  | claimedTwice (field first second : String)
  | sameFields (first second : String) (fields : List String)
deriving DecidableEq, Repr

/-- Wording of a defect. -/
def Defect.message : Defect → String
  | .noSignature => "no constructor signature"
  | .unknownParameter name => s!"signature binds unknown parameter '{name}'"
  | .claimedTwice field first second =>
    s!"field '{field}' is claimed by both '{first}' and '{second}'"
  | .sameFields first second fields =>
    "signatures '" ++ first ++ "' and '" ++ second ++ "' share the field set "
      ++ Text.quotedSet fields

/-- The first field with two owners, in a list of fields with their parameters. -/
def claimedTwice? : List (String × String) → List (String × String) → Option Defect
  | _, [] => none
  | owners, (field, owner) :: rest =>
    match lookupEntry field owners with
    | some other => some (.claimedTwice field other owner)
    | none => claimedTwice? ((field, owner) :: owners) rest

/-- The first two signatures with the same fields. -/
def sameFields? (s : Schema) : List Signature → Option Defect
  | [] => none
  | a :: rest =>
    match rest.find? fun b => s.fieldsOf b == s.fieldsOf a with
    | some b => some (.sameFields a.name b.name (s.fieldsOf a))
    | none => sameFields? s rest

/-- The first defect of a schema. -/
def defect? (s : Schema) : Option Defect :=
  let unknown := (s.signatures.flatMap (·.parameters)).find? fun name =>
    (s.parameter? name).isNone
  let owners := s.parameters.flatMap fun p => p.fields.map (·, p.name)
  if s.signatures.isEmpty then some .noSignature
  else match unknown with
    | some name => some (.unknownParameter name)
    | none => (claimedTwice? [] owners).or (s.sameFields? s.signatures)

/-- Refuses a schema with a defect. -/
def validate (s : Schema) : Except Failure PUnit :=
  match s.defect? with
  | some defect => .error (.config s!"{s.kind.name} catalog: {defect.message}")
  | none => .ok ⟨⟩

/-! ## Building schemas -/

/-- All subsets of a list, each in the order of the list; those without its first element come
before their counterpart with it. -/
def subsets {α : Type} : List α → List (List α)
  | [] => [[]]
  | a :: rest => (subsets rest).flatMap fun s => [s, a :: s]

/-- Name of the signature with some optional parameters. -/
def variantName (chosen : List String) : String :=
  if chosen.isEmpty then "base" else "+".intercalate chosen

/-- A schema with a signature for each subset of its optional parameters.  All other parameters
belong to every signature. -/
def withOptional (kind : EntityKind) (parameters : List Parameter) (optional : List String)
    (build : Builder) : Schema :=
  let needed := (parameters.map (·.name)).filter (!optional.contains ·)
  { kind
    parameters
    signatures := (subsets optional).map fun chosen =>
      ⟨variantName chosen, needed ++ chosen, build⟩ }

/-- A schema whose one signature has all parameters. -/
def withAll (kind : EntityKind) (parameters : List Parameter) (build : Builder) : Schema :=
  withOptional kind parameters [] build

end Schema

/-! ## Parameters -/

namespace Parameter

/-- A parameter read from the field of its name. -/
def direct (name : String) (leaf : LeafKind) : Parameter := ⟨name, .direct leaf⟩

/-- A quantity read from the field of its name. -/
def quantity (name : String) (unit : MeasureUnit) : Parameter := direct name (.quantity unit)

/-- A reference to an entity of a kind. -/
def reference (name : String) (target : EntityKind) : Parameter := ⟨name, .reference target⟩

/-- An entity of another kind embedded in some fields. -/
def nested (name : String) (target : EntityKind) (fields : List String) : Parameter :=
  ⟨name, .nested target fields⟩

/-- What identifies an asset. -/
def identity : List Parameter := [direct "uuid" .uuid, direct "id" .text]

/-- The optional fields of operated assets. -/
def operated : List String := ["operator", "operatesfrom", "operatesuntil"]

/-- What all operated assets have. -/
def asset : List Parameter :=
  identity ++ [reference "operator" .operator, direct "operatesfrom" .timestamp,
    direct "operatesuntil" .timestamp]

end Parameter

end GridRecords
