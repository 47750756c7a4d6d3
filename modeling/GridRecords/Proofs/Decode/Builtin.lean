/-
# Decoding without a registry

What the built-in schemas make of a record depends on the record, its context and the policy on
boolean text only.  The functions of this module decode without a registry, and
`yields_decodeEntity` and `yields_decodeRow` say that every registry of the built-in schemas
decodes as they do.
-/
import GridRecords.Batch
import GridRecords.Proofs.Decode.Yields

namespace GridRecords

/-- Decodes the entity of a kind that is embedded in a record, without a registry. -/
abbrev PlainDecoder := EntityKind → FieldRecord → Context → Except Failure Value

/-! ## Plain decoding -/

/-- The argument for a parameter that takes part in the signature of a record. -/
def Parameter.plainArgument (p : Parameter) (policy : BooleanPolicy) (nested : PlainDecoder)
    (r : FieldRecord) (c : Context) : Except Failure Value :=
  match c.get? p.name with
  | some value => .ok value
  | none =>
    match p.source with
    | .direct leaf =>
      match r.get? p.name with
      | some raw => leaf.decode policy raw
      | none => .ok .null
    | .nested target fields =>
      let inner := r.restrict fields
      let known := c.restrict fields
      if inner.isEmpty && known.isEmpty then .ok .null else nested target inner known
    | .reference _ => .ok .null

/-- One argument per parameter.  Parameters outside the signature are absent. -/
def Schema.plainArguments (s : Schema) (signature : Signature) (policy : BooleanPolicy)
    (nested : PlainDecoder) (r : FieldRecord) (c : Context) : Except Failure Arguments :=
  Arguments.mk <$> s.parameters.mapM fun p => Prod.mk p.name <$>
    if signature.binds p.name then p.plainArgument policy nested r c else .ok .null

/-- Builds the entity of a record in a context. -/
def Schema.plainConstruct (s : Schema) (policy : BooleanPolicy) (nested : PlainDecoder)
    (r : FieldRecord) (c : Context) : Except Failure Entity := do
  let signature ← s.select r c
  let arguments ← s.plainArguments signature policy nested r c
  (signature.build arguments).mapError (s.fault arguments)

/-- Decodes a record by the built-in schema of a kind, entities nested in each other to a depth. -/
def plainWithin (policy : BooleanPolicy) : Nat → PlainDecoder
  | 0, kind, _, _ => .error (.config s!"{kind.name} catalog: nests too deeply")
  | depth + 1, kind, r, c =>
    match kind.known? c with
    | some e => .ok (.entity e)
    | none =>
      Value.entity <$> (Schema.builtin kind).plainConstruct policy (plainWithin policy depth) r c

/-- Decodes a record to an entity of a kind. -/
def plainEntity (policy : BooleanPolicy) (kind : EntityKind) (r : FieldRecord) (c : Context) :
    Except Failure Entity := do
  match ← plainWithin policy EntityKind.all.length kind r c with
  | .entity e => return e
  | other => throw (.construction kind s!"decoded a {other.typeName} instead of an entity" [])

/-- Decodes one row, its references resolved through an index. -/
def ReferenceIndex.plainRow (i : ReferenceIndex) (policy : BooleanPolicy) (kind : EntityKind)
    (r : FieldRecord) : Except Failure (Entity × List Substitution) := do
  let resolution ← i.resolve (Schema.builtin kind) r
  let e ← plainEntity policy kind r resolution.context
  return (e, resolution.substitutions)

/-! ## Registries decode the same way -/

open Decoding Registry

variable {policy : BooleanPolicy}

theorem yields_argument (p : Parameter) {nested : NestedDecoder} {plain : PlainDecoder}
    (same : ∀ kind r c, (nested kind r c).Yields policy (plain kind r c)) (r : FieldRecord)
    (c : Context) : (p.argument nested r c).Yields policy (p.plainArgument policy plain r c) := by
  unfold Parameter.argument Parameter.plainArgument
  cases c.get? p.name with
  | some value => exact .pure value
  | none =>
      cases p.source with
      | direct leaf =>
          cases r.get? p.name with
          | some raw => exact yields_decodeField leaf raw
          | none => exact .pure Value.null
      | nested target fields =>
          by_cases absent : ((r.restrict fields).isEmpty && (c.restrict fields).isEmpty) = true
          · simp only [absent, ↓reduceIte]
            exact .pure Value.null
          · simp only [absent]
            exact same target _ _
      | reference _ => exact .pure Value.null

theorem yields_construct (s : Schema) {nested : NestedDecoder} {plain : PlainDecoder}
    (same : ∀ kind r c, (nested kind r c).Yields policy (plain kind r c)) (r : FieldRecord)
    (c : Context) : (s.construct nested r c).Yields policy (s.plainConstruct policy plain r c) := by
  refine (Yields.lift _).bind fun signature _ => ?_
  have arguments : (s.arguments signature nested r c).Yields policy
      (s.plainArguments signature policy plain r c) := by
    refine Yields.map Arguments.mk (Yields.mapM _ fun p _ => ?_)
    by_cases binds : signature.binds p.name = true
    · simp only [binds, ↓reduceIte]
      exact (yields_argument p same r c).map (Prod.mk p.name)
    · simp only [binds]
      exact (Yields.pure Value.null).map (Prod.mk p.name)
  exact arguments.bind fun arguments _ => .lift _

theorem yields_decodeWithin (depth : Nat) (kind : EntityKind) (r : FieldRecord) (c : Context) :
    (decodeWithin depth kind r c).Yields policy (plainWithin policy depth kind r c) := by
  induction depth generalizing kind r c with
  | zero => exact .throw _
  | succ depth ih =>
      unfold decodeWithin plainWithin
      cases kind.known? c with
      | some e => exact .pure _
      | none =>
          refine (yields_resolve_entity kind).bind_ok ?_
          exact (yields_construct (Schema.builtin kind) ih r c).map Value.entity

/-- **Every registry of the built-in schemas decodes a record to the same entity.** -/
theorem yields_decodeEntity (kind : EntityKind) (r : FieldRecord) (c : Context) :
    (decodeEntity kind r c).Yields policy (plainEntity policy kind r c) := by
  refine (yields_decodeWithin _ kind r c).bind fun value _ => ?_
  cases value with
  | entity e => exact .pure e
  | _ => exact .throw _

theorem yields_decodeRow (i : ReferenceIndex) (kind : EntityKind) (r : FieldRecord) :
    (i.decodeRow (Schema.builtin kind) kind r).Yields policy (i.plainRow policy kind r) := by
  refine (Yields.lift _).bind fun resolution _ => ?_
  exact (yields_decodeEntity kind r resolution.context).bind fun e _ => .pure _

/-- The rows of a batch are decoded independently of each other. -/
theorem yields_decodeRows (i : ReferenceIndex) (kind : EntityKind) (rows : List FieldRecord) :
    (i.decodeRows kind rows).Yields policy
      (.ok (rows.map fun r => ⟨r.label kind, i.plainRow policy kind r⟩)) := by
  refine (yields_prepare [kind]).bind_ok ?_
  refine (yields_schemaFor kind).bind_ok ?_
  have rows' : (rows.mapM fun r => do
      let result ← Decoding.attempt (i.decodeRow (Schema.builtin kind) kind r)
      return (⟨r.label kind, result⟩ : RowOutcome Entity)).Yields policy
      (rows.mapM fun r : FieldRecord => (.ok ⟨r.label kind, i.plainRow policy kind r⟩ :
        Except Failure (RowOutcome Entity))) :=
    Yields.mapM rows fun r _ => ((yields_decodeRow i kind r).attempt).bind_ok (.pure _)
  have all : rows.mapM (fun r : FieldRecord => (.ok ⟨r.label kind, i.plainRow policy kind r⟩ :
      Except Failure (RowOutcome Entity))) =
      .ok (rows.map fun r => ⟨r.label kind, i.plainRow policy kind r⟩) :=
    Outcome.mapM_eq_map fun _ _ => rfl
  rw [all] at rows'
  exact rows'

end GridRecords
