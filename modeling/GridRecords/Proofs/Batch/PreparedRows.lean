/-
# How rows of prepared kinds fail

A registry that nothing is registered in decodes by the schemas it is given, whatever it was used
for (`Registry.decodesBy_after`).  Where no kind is embedded in itself, however deep, a registry has
all that decoding a row of a kind can ask for once the kind was prepared: a row fails because of its
own contents (`Failure.OfRow`), and a batch fails because of the setup only where preparing fails
(`ofRow_of_prepared`).

The decoder follows embedded entities to a depth of as many entities as there are kinds.  That is
deep enough, since a chain of kinds of which each embeds the next one names no kind twice
(`length_le_of_acyclic`).
-/
import GridRecords.Proofs.Batch.Independence
import Mathlib.Data.List.Perm.Subperm
import Mathlib.Logic.Relation

namespace GridRecords

open Decoding

/-! ## Failures of rows -/

/-- A failure is one of a single row: a text is malformed, no signature fits, or the entity cannot
be built. -/
def Failure.OfRow (f : Failure) : Prop :=
  f.code ∈ ["parsing", "no-matching-signature", "construction"]

theorem Failure.OfRow.isConfiguration {f : Failure} (h : f.OfRow) : f.isConfiguration = false := by
  cases f
  case parsing | noMatchingSignature | construction => rfl
  all_goals exact absurd h (by simp [OfRow, code])

namespace LeafKind

/-- The text of a field fails to be read because it is malformed. -/
theorem ofRow_of_decode {policy : BooleanPolicy} {kind : LeafKind} {raw : String} {f : Failure}
    (h : kind.decode policy raw = .error f) : f.OfRow := by
  simp only [decode] at h
  split at h
  · cases h
  · cases read : kind.readValue policy raw (Text.trim raw.toList) with
    | ok v =>
        rw [read] at h
        cases h
    | error reason =>
        rw [read] at h
        cases h
        simp [Failure.OfRow, Failure.code]

end LeafKind

namespace Schema

/-- Selecting a signature fails because none fits, or more than one. -/
theorem ofRow_of_select {s : Schema} {r : FieldRecord} {c : Context} {f : Failure}
    (h : s.select r c = .error f) : f.OfRow := by
  simp only [select] at h
  split at h
  · cases h
  · cases h
    simp [Failure.OfRow, Failure.code]

theorem ofRow_fault (s : Schema) (a : Arguments) (f : BuildFault) : (s.fault a f).OfRow := by
  simp [fault, Failure.OfRow, Failure.code]

end Schema

namespace ReferenceIndex

variable {i : ReferenceIndex} {r : FieldRecord} {f : Failure}

/-- Looking up a reference fails because its text is malformed or names another kind. -/
theorem ofRow_of_lookField {name : String} {kind : EntityKind}
    (h : i.lookField r name kind = .error f) : f.OfRow := by
  have parsing (target raw reason : String) : (Failure.parsing target raw reason).OfRow := by
    simp [Failure.OfRow, Failure.code]
  simp only [lookField] at h
  split at h
  · cases h
  · split at h
    · cases h
    · split at h
      · cases h
        exact parsing _ _ _
      · simp only [find] at h
        split at h
        · split at h
          · cases h
          · cases h
            exact parsing _ _ _
        · split at h <;> cases h

theorem ofRow_of_resolve {s : Schema} (h : i.resolve s r = .error f) : f.OfRow := by
  unfold resolve at h
  obtain outcomes | ⟨found, -, failed⟩ := GridRecords.Outcome.bind_eq_error.1 h
  · obtain ⟨⟨name, kind⟩, -, failed⟩ := GridRecords.Outcome.error_of_mapM outcomes
    obtain look | ⟨o, -, failed⟩ := GridRecords.Outcome.bind_eq_error.1 failed
    · exact ofRow_of_lookField look
    · cases failed
  · cases failed

end ReferenceIndex

/-! ## Embedded kinds -/

/-- Entities of a kind have entities of another kind embedded in them. -/
def Embeds (schemas : EntityKind → Option Schema) (kind target : EntityKind) : Prop :=
  ∃ s, schemas kind = some s ∧ target ∈ s.nestedKinds

/-- Kinds have schemas, and embed none but each other. -/
def ClosedKinds (schemas : EntityKind → Option Schema) (kinds : List EntityKind) : Prop :=
  ∀ kind ∈ kinds, ∃ s, schemas kind = some s ∧ ∀ target ∈ s.nestedKinds, target ∈ kinds

/-- Where no kind is embedded in itself, a chain of embedded kinds names no kind twice. -/
theorem length_le_of_acyclic {schemas : EntityKind → Option Schema}
    (acyclic : ∀ kind, ¬ Relation.TransGen (Embeds schemas) kind kind) {path : List EntityKind}
    (chain : path.IsChain (Embeds schemas)) : path.length ≤ EntityKind.all.length := by
  have further : path.Pairwise (Relation.TransGen (Embeds schemas)) :=
    (chain.imp fun _ _ => Relation.TransGen.single).pairwise
  have nodup : path.Nodup := by
    refine further.imp fun inner same => ?_
    subst same
    exact acyclic _ inner
  exact (List.subperm_of_subset nodup fun kind _ => kind.mem_all).length_le

/-! ## Rows of prepared kinds -/

section Prepared

variable {schemas : EntityKind → Option Schema} {policy : BooleanPolicy}

theorem settles_decodeField_ofRow (kind : LeafKind) (raw : String) :
    (Registry.decodeField kind raw).Settles
      (Registry.DecodesBy (schemaStrategies schemas policy)) Failure.OfRow := by
  have asked : (Registry.resolve (.leaf kind)).ComesTo
      (Registry.DecodesBy (schemaStrategies schemas policy)) (.ok (.leaf kind policy)) :=
    (Registry.answers_decodesBy _).resolve_of_some rfl
  refine Settles.bind_of asked (fun f h => by cases h) fun strategy h => ?_
  cases h
  exact .lift fun f => LeafKind.ofRow_of_decode

/-- Entities of kinds that embed none but each other are decoded as deep as they are embedded, or
fail because of what they are decoded from. -/
theorem settles_decodeWithin_ofRow {kinds : List EntityKind} (closed : ClosedKinds schemas kinds)
    {depth : Nat} {kind : EntityKind} (mem : kind ∈ kinds)
    (deep : ∀ path, (kind :: path).IsChain (Embeds schemas) → (kind :: path).length ≤ depth)
    (r : FieldRecord) (c : Context) :
    (Registry.decodeWithin depth kind r c).Settles
      (Registry.DecodesBy (schemaStrategies schemas policy)) Failure.OfRow := by
  induction depth generalizing kind r c with
  | zero =>
      have one := deep [] (.singleton kind)
      cases one
  | succ depth ih =>
      unfold Registry.decodeWithin
      cases kind.known? c with
      | some e => exact .pure (Value.entity e)
      | none =>
          obtain ⟨s, found, nested⟩ := closed kind mem
          have asked : (Registry.resolve (.entity kind)).ComesTo
              (Registry.DecodesBy (schemaStrategies schemas policy)) (.ok (.composite s)) := by
            refine (Registry.answers_decodesBy _).resolve_of_some ?_
            show (schemas kind).map Strategy.composite = _
            rw [found]
            rfl
          refine Settles.bind_of asked (fun f h => by cases h) fun strategy h => ?_
          cases h
          refine Settles.map Value.entity ?_
          refine settles_construct s (fun f => Schema.ofRow_of_select) s.ofRow_fault ?_
          intro p parameter
          refine settles_argument p (fun leaf raw _ => settles_decodeField_ofRow leaf raw) ?_ r c
          intro target fields source r c
          have embedded := Schema.mem_nestedKinds parameter source
          refine ih (nested target embedded) (fun path chain => ?_) r c
          have longer := deep (target :: path) (chain.cons_cons ⟨s, found, embedded⟩)
          exact Nat.le_of_succ_le_succ longer

theorem settles_decodeEntity_ofRow {kinds : List EntityKind} (closed : ClosedKinds schemas kinds)
    (acyclic : ∀ kind, ¬ Relation.TransGen (Embeds schemas) kind kind) {kind : EntityKind}
    (mem : kind ∈ kinds) (r : FieldRecord) (c : Context) :
    (Registry.decodeEntity kind r c).Settles
      (Registry.DecodesBy (schemaStrategies schemas policy)) Failure.OfRow := by
  have decoded : (Registry.decode (.entity kind) r c).Settles
      (Registry.DecodesBy (schemaStrategies schemas policy)) Failure.OfRow :=
    settles_decodeWithin_ofRow closed mem (fun _ => length_le_of_acyclic acyclic) r c
  refine decoded.bind fun value => ?_
  cases value with
  | entity e => exact .pure e
  | _ => exact .throw (by simp [Failure.OfRow, Failure.code])

/-- A row of a kind fails because of its own contents. -/
theorem settles_decodeRow_ofRow {kinds : List EntityKind} (closed : ClosedKinds schemas kinds)
    (acyclic : ∀ kind, ¬ Relation.TransGen (Embeds schemas) kind kind) {kind : EntityKind}
    (mem : kind ∈ kinds) (i : ReferenceIndex) (s : Schema) (r : FieldRecord) :
    (i.decodeRow s kind r).Settles
      (Registry.DecodesBy (schemaStrategies schemas policy)) Failure.OfRow := by
  refine Settles.bind (.lift fun f => ReferenceIndex.ofRow_of_resolve) fun resolution => ?_
  exact (settles_decodeEntity_ofRow closed acyclic mem r resolution.context).bind fun e => .pure _

end Prepared

/-! ## Using a registry -/

namespace Registry

/-- What a registry can be used for, registering strategies apart. -/
inductive Use where
  | resolve (target : Target)
  | schemaFor (kind : EntityKind)
  | prepare (kinds : List EntityKind)
  | decodeField (kind : LeafKind) (raw : String)
  | decode (target : Target) (r : FieldRecord) (c : Context)
  | decodeEntity (kind : EntityKind) (r : FieldRecord) (c : Context)
  | construct (schema : Schema) (r : FieldRecord) (c : Context)
  | decodeBatch (i : ReferenceIndex) (failFast : Bool) (kind : EntityKind) (rows : List FieldRecord)

/-- A registry after one use. -/
def Use.run : Use → Registry → Registry
  | .resolve target, r => (Registry.resolve target r).2
  | .schemaFor kind, r => (Registry.schemaFor kind r).2
  | .prepare kinds, r => (Registry.prepare kinds r).2
  | .decodeField kind raw, r => (Registry.decodeField kind raw r).2
  | .decode target record c, r => (Registry.decode target record c r).2
  | .decodeEntity kind record c, r => (Registry.decodeEntity kind record c r).2
  | .construct schema record c, r => (schema.construct decodeNested record c r).2
  | .decodeBatch i failFast kind rows, r => (i.decodeBatch failFast kind rows r).2

/-- A registry after some uses, one after the other. -/
def after (r : Registry) (uses : List Use) : Registry := uses.foldl (fun r use => use.run r) r

variable {strategies : Target → Option Strategy} {P : Registry → Prop}

theorem Answers.settles_decodeBatch (asks : Answers strategies P) (i : ReferenceIndex)
    (failFast : Bool) (kind : EntityKind) (rows : List FieldRecord) :
    (i.decodeBatch failFast kind rows).Settles P anyFailure := by
  have decoded : (i.decodeRows kind rows).Settles P anyFailure := by
    refine ((asks.settles_prepare [kind]).mono fun _ _ => trivial).bind fun _ => ?_
    refine (asks.settles_schemaFor kind).bind fun schema => ?_
    refine .mapM rows fun r _ => ?_
    exact (asks.settles_decodeRow i schema kind r).attempt.bind fun result => .pure _
  exact decoded.bind fun rows => .lift fun _ _ => trivial

/-- What holds of a registry whatever it is asked for holds after every use. -/
theorem Use.keeps (asks : Answers strategies P) {r : Registry} (hr : P r) (use : Use) :
    P (use.run r) := by
  cases use with
  | resolve target => exact ((asks.settles_resolve target).comesTo hr).keeps hr
  | schemaFor kind => exact ((asks.settles_schemaFor kind).comesTo hr).keeps hr
  | prepare kinds => exact ((asks.settles_prepare kinds).comesTo hr).keeps hr
  | decodeField kind raw => exact ((asks.settles_decodeField kind raw).comesTo hr).keeps hr
  | decode target record c => exact ((asks.settles_decode target record c).comesTo hr).keeps hr
  | decodeEntity kind record c =>
      exact ((asks.settles_decodeEntity kind record c).comesTo hr).keeps hr
  | construct schema record c =>
      exact ((asks.settles_construct schema asks.settles_decodeNested record c).comesTo hr).keeps hr
  | decodeBatch i failFast kind rows =>
      exact ((asks.settles_decodeBatch i failFast kind rows).comesTo hr).keeps hr

/-- **No use changes the strategies of a registry.** -/
theorem Use.decodesBy_run {r : Registry} (hr : r.DecodesBy strategies) (use : Use) :
    (use.run r).DecodesBy strategies :=
  use.keeps (answers_decodesBy strategies) hr

/-- No sequence of uses does. -/
theorem decodesBy_after {r : Registry} (hr : r.DecodesBy strategies) (uses : List Use) :
    (r.after uses).DecodesBy strategies := by
  induction uses generalizing r with
  | nil => exact hr
  | cons use rest ih => exact ih (use.decodesBy_run hr)

end Registry

/-! ## Prepared kinds -/

section Used

variable {schemas : EntityKind → Option Schema} {policy : BooleanPolicy} {registry : Registry}
  {kind : EntityKind}

open Registry

theorem schema_of_strategy {s : Schema}
    (h : schemaStrategies schemas policy (.entity kind) = some (.composite s)) :
    schemas kind = some s := by
  obtain ⟨s', found, same⟩ := Option.map_eq_some_iff.1 h
  cases same
  exact found

/-- A kind that was prepared is among kinds that embed no others. -/
theorem exists_closed_of_prepare (hr : registry.DecodesBy (schemaStrategies schemas policy))
    (prepared : (prepare [kind] registry).1 = .ok ⟨⟩) :
    ∃ kinds, kind ∈ kinds ∧ ClosedKinds schemas kinds := by
  obtain ⟨kinds, mem, closed⟩ := exists_visited hr prepared
  refine ⟨kinds, mem, fun k known => ?_⟩
  obtain ⟨s, strategy, nested⟩ := closed k known
  exact ⟨s, schema_of_strategy strategy, nested⟩

/-- What stops a batch of a prepared kind is a failure of a row. -/
theorem ofRow_of_stop? (acyclic : ∀ kind, ¬ Relation.TransGen (Embeds schemas) kind kind)
    (hr : registry.DecodesBy (schemaStrategies schemas policy))
    (prepared : (prepare [kind] registry).1 = .ok ⟨⟩) {i : ReferenceIndex} {s : Schema}
    {r : FieldRecord} {failFast : Bool} {f : Failure}
    (stops : (i.decodedRow s kind registry r).stop? failFast = some f) :
    f.OfRow ∧ failFast = true := by
  obtain ⟨kinds, mem, closed⟩ := exists_closed_of_prepare hr prepared
  obtain ⟨failed, matters⟩ := Option.filter_eq_some_iff.1 stops
  have ofRow : f.OfRow := by
    refine (settles_decodeRow_ofRow closed acyclic mem i s r).only hr ?_
    unfold RowOutcome.failure? at failed
    split at failed
    · cases failed
    · rename_i g result
      cases failed
      exact result
  rw [ofRow.isConfiguration] at matters
  exact ⟨ofRow, matters⟩

/-- **Preparation finds whatever is wrong with the setup.**  Once a kind was prepared, its records
are decoded or fail because of their own contents, in any context and through any index, and
batches of them succeed.  A batch fails because of the setup only where preparing fails, before the
first row. -/
theorem ofRow_of_prepared (acyclic : ∀ kind, ¬ Relation.TransGen (Embeds schemas) kind kind)
    {earlier later : List Use}
    (prepared : (prepare [kind] ((Registry.new schemas policy).after earlier)).1 = .ok ⟨⟩)
    (used : registry = (Registry.new schemas policy).after (earlier ++ .prepare [kind] :: later)) :
    (∀ r c f, (decodeEntity kind r c registry).1 = .error f → f.OfRow) ∧
    (∃ schema, (schemaFor kind registry).1 = .ok schema ∧
      ∀ (i : ReferenceIndex) r f, (i.decodeRow schema kind r registry).1 = .error f → f.OfRow) ∧
    (∀ (i : ReferenceIndex) rows, ∃ o, (i.decodeBatch false kind rows registry).1 = .ok o) ∧
    ∀ uses (i : ReferenceIndex) failFast k rows f,
      (i.decodeBatch failFast k rows ((Registry.new schemas policy).after uses)).1 = .error f →
      f.isConfiguration = true →
      (prepare [k] ((Registry.new schemas policy).after uses)).1 = .error f := by
  have new : (Registry.new schemas policy).DecodesBy (schemaStrategies schemas policy) :=
    decodesBy_new
  have hr : registry.DecodesBy (schemaStrategies schemas policy) := used ▸ decodesBy_after new _
  have again : (prepare [kind] registry).1 = .ok ⟨⟩ := by
    rw [← prepared]
    exact ((settles_prepare [kind]).comesTo (decodesBy_after new earlier)).eq hr
  obtain ⟨kinds, mem, closed⟩ := exists_closed_of_prepare hr again
  obtain ⟨schema, asked⟩ := comesTo_schemaFor_of_prepare again
  refine ⟨?_, ⟨schema, asked.eq registry.decodesBy_strategy?, ?_⟩, ?_, ?_⟩
  · intro r c f failed
    exact (settles_decodeEntity_ofRow closed acyclic mem r c).only hr failed
  · intro i r f failed
    exact (settles_decodeRow_ofRow closed acyclic mem i schema r).only hr failed
  · intro i rows
    refine ⟨_, (decodeBatch_eq_ofRows again asked i false rows).trans
      ((BatchOutcome.rowWise_ofRows _).account false rows fun r _ => ?_)⟩
    cases stops : (i.decodedRow schema kind registry r).stop? false with
    | none => rfl
    | some f =>
        have fast := (ofRow_of_stop? acyclic hr again stops).2
        cases fast
  · intro uses i failFast k rows f failed setup
    have hu := decodesBy_after new uses
    have preparing := (settles_prepare [k]).comesTo hu
    cases outcome : (prepare [k] ((Registry.new schemas policy).after uses)).1 with
    | error g =>
        rw [outcome] at preparing
        have stopped : (i.decodeBatch failFast k rows).ComesTo
            (DecodesBy (schemaStrategies schemas policy)) (.error g) :=
          (preparing.bind_error _).bind_error _
        cases (stopped.eq hu).symm.trans failed
        rfl
    | ok _ =>
        -- a failure of a row is none of the setup
        obtain ⟨s, asked'⟩ := comesTo_schemaFor_of_prepare outcome
        rw [decodeBatch_eq_ofRows outcome asked' i failFast rows] at failed
        obtain ⟨_, r, _, _, stops, _⟩ :=
          ((BatchOutcome.rowWise_ofRows _).error_iff failFast rows f).1 failed
        rw [(ofRow_of_stop? acyclic hu outcome stops).1.isConfiguration] at setup
        cases setup

end Used

/-! ## The built-in schemas -/

theorem acyclic_builtin (kind : EntityKind) :
    ¬ Relation.TransGen (Embeds fun kind => some (Schema.builtin kind)) kind kind := by
  intro cycle
  obtain ⟨inner, ⟨s, found, embedded⟩, -⟩ := Relation.TransGen.head'_iff.1 cycle
  obtain ⟨outer, -, ⟨s', found', around⟩⟩ := Relation.TransGen.tail'_iff.1 cycle
  cases found
  cases found'
  rw [nestedKinds_of_embedded around] at embedded
  cases embedded

/-- Lines are asked for before nodes are prepared, and a malformed row of nodes fails fast after
that; every batch of nodes succeeds then. -/
theorem ofRow_of_prepared_nodes :
    (Registry.prepare [.node]
        ((Registry.new (fun kind => some (Schema.builtin kind)) .strict).after
          [.resolve (.entity .line)])).1 = .ok ⟨⟩ ∧
      ∀ rows, ∃ o, (ReferenceIndex.empty.decodeBatch false .node rows
        ((Registry.new (fun kind => some (Schema.builtin kind)) .strict).after
          [.resolve (.entity .line), .prepare [.node],
            .decodeBatch .empty true .node [.ofList [("uuid", "none")]]])).1 = .ok o := by
  have asked := ComesTo.keeps (Registry.yields_resolve_entity .line)
    (Registry.isBuiltin_new .strict)
  have prepared := ComesTo.eq (Registry.yields_prepare [.node]) asked
  have used : (Registry.new (fun kind => some (Schema.builtin kind)) .strict).after
      [.resolve (.entity .line), .prepare [.node],
        .decodeBatch .empty true .node [.ofList [("uuid", "none")]]] =
      (Registry.new (fun kind => some (Schema.builtin kind)) .strict).after
        ([.resolve (.entity .line)] ++ .prepare [.node] ::
          [.decodeBatch .empty true .node [.ofList [("uuid", "none")]]]) := rfl
  obtain ⟨-, -, succeeds, -⟩ := ofRow_of_prepared acyclic_builtin prepared used
  exact ⟨prepared, succeeds ReferenceIndex.empty⟩

end GridRecords
