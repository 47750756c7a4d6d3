/-
# The registry of strategies

A registry says how records are decoded.  It holds one strategy per target: the leaf strategies
from the start, a composite strategy from the first time its kind is asked for.  A strategy
stays installed, and a later one for the same target is refused, so a registry only grows.

`Registry.resolve` finds or derives a strategy; `Registry.prepare` resolves everything that
decoding some kinds can ask for and checks the schemas on the way.
-/
import GridRecords.Leaf.Codec
import GridRecords.Schema.Basic

namespace GridRecords

/-! ## Strategies -/

/-- What a record can be decoded to. -/
inductive Target where
  | leaf (kind : LeafKind)
  | entity (kind : EntityKind)
deriving DecidableEq, Repr

/-- A target in messages. -/
def Target.text : Target → String
  | leaf kind => kind.display
  | entity kind => kind.name

/-- How the records of a target are decoded. -/
inductive Strategy where
  /-- a single value is read from text -/
  | leaf (kind : LeafKind) (policy : BooleanPolicy)
  /-- an entity is built from its fields -/
  | composite (schema : Schema)

/-- The target that a strategy is for. -/
def Strategy.target : Strategy → Target
  | leaf kind _ => .leaf kind
  | composite schema => .entity schema.kind

/-! ## Registries -/

/-- The strategies by target, in the order in which they were installed. -/
structure Registry where
  /-- the schema that a composite strategy is derived from -/
  schemas : EntityKind → Option Schema
  /-- what boolean fields make of text that is neither `true` nor `false` -/
  policy : BooleanPolicy
  entries : List (Target × Strategy)

/-- A computation that may fail and may install strategies.  What it installed before it failed
stays installed. -/
abbrev Decoding := ExceptT Failure (StateM Registry)

/-- A result that does not depend on the registry. -/
def Decoding.lift {α : Type} (r : Except Failure α) : Decoding α := fun registry => (r, registry)

/-- A computation that gives its failure as a result. -/
def Decoding.attempt {α : Type} (x : Decoding α) : Decoding (Except Failure α) := fun registry =>
  let (result, registry) := x registry
  (.ok result, registry)

namespace Registry

/-- The registry with nothing but the leaf strategies. -/
def new (schemas : EntityKind → Option Schema) (policy : BooleanPolicy) : Registry :=
  { schemas, policy, entries := LeafKind.all.map fun kind => (.leaf kind, .leaf kind policy) }

/-- The installed strategy of a target. -/
def find? (r : Registry) (target : Target) : Option Strategy := r.entries.lookup target

/-- Place of a target's strategy in the order of installation.  It identifies the strategy, since
none is ever replaced. -/
def place? (r : Registry) (target : Target) : Option Nat :=
  r.entries.findIdx? fun entry => entry.1 == target

/-- Whether a target has a strategy. -/
def isRegistered (r : Registry) (target : Target) : Bool := (r.find? target).isSome

/-- Number of strategies. -/
def size (r : Registry) : Nat := r.entries.length

/-- Whether there is no strategy. -/
def isEmpty (r : Registry) : Bool := r.entries.isEmpty

/-- Installs a strategy for a target that has none. -/
def install (r : Registry) (target : Target) (strategy : Strategy) : Registry :=
  if r.isRegistered target then r else { r with entries := r.entries ++ [(target, strategy)] }

/-- Installs a strategy unless its target has one, and gives the one that is installed. -/
def register (strategy : Strategy) : StateM Registry Strategy := do
  modify (·.install strategy.target strategy)
  return ((← get).find? strategy.target).getD strategy

/-- The strategy that a target would get. -/
def derive? (r : Registry) : Target → Option Strategy
  | .leaf _ => none
  | .entity kind => (r.schemas kind).map .composite

/-- The strategy of a target.  A composite one is derived from its schema when it is first asked
for. -/
def resolve (target : Target) : Decoding Strategy := do
  let r ← get
  match r.find? target with
  | some strategy => return strategy
  | none =>
    match r.derive? target with
    | some strategy => do
      set (r.install target strategy)
      return strategy
    | none => throw (.missingStrategy target.text)

/-- Reads a single field. -/
def decodeField (kind : LeafKind) (raw : String) : Decoding Value := do
  match ← resolve (.leaf kind) with
  | .leaf kind policy => Decoding.lift (kind.decode policy raw)
  | .composite _ => throw (.missingStrategy kind.display)

/-- The schema that entities of a kind are built by. -/
def schemaFor (kind : EntityKind) : Decoding Schema := do
  match ← resolve (.entity kind) with
  | .composite schema => return schema
  | .leaf .. => throw (.missingStrategy kind.name)

/-! ## Preparation -/

/-- Resolves what a schema asks for directly: the leaf strategies of its fields. -/
def prepareFields (schema : Schema) : Decoding PUnit :=
  schema.parameters.forM fun p =>
    match p.source with
    | .direct leaf => discard (resolve (.leaf leaf))
    | .nested .. | .reference _ => pure ⟨⟩

/-- Resolves and checks the pending kinds and all kinds nested in them, each kind of `fresh` at
most once. -/
def prepareFrom (fresh : List EntityKind) : List EntityKind → Decoding PUnit
  | [] => pure ⟨⟩
  | kind :: pending =>
    if _h : kind ∈ fresh then do
      let schema ← schemaFor kind
      Decoding.lift schema.validate
      prepareFields schema
      prepareFrom (fresh.erase kind) (schema.nestedKinds.reverse ++ pending)
    else prepareFrom fresh pending
termination_by pending => (fresh.length, pending.length)
decreasing_by
  · have := List.length_erase_of_mem _h
    have := List.length_pos_of_mem _h
    simp_wf
    omega
  · simp_wf
    omega

/-- Resolves and checks all that decoding entities of some kinds can ask for, so that what is
wrong with the setup shows before the first record. -/
def prepare (kinds : List EntityKind) : Decoding PUnit :=
  prepareFrom EntityKind.all kinds.reverse

end Registry

end GridRecords
