/-
# Construction without signatures

Except for time-based values, signatures only sort out what would be absent anyway: a parameter that
the selected signature does not bind has nothing in the record or the context to take its value
from (`plainArgument_of_absent`).  So selecting a signature can be left out.  Assembling an entity
takes one argument per parameter and calls the builder of the kind, and constructing one comes to
the same (`construct_eq_assemble`), also where entities are embedded
(`plainWithin_eq_assembleWithin`).
-/
import GridRecords.Proofs.Schema.Variants
import GridRecords.Proofs.Decode.WriteBack

namespace GridRecords

open Decoding

/-! ## Assembling -/

theorem signatures_ne_nil (kind : EntityKind) : (Schema.builtin kind).signatures ≠ [] := by
  cases kind <;> exact List.cons_ne_nil _ _

/-- The builder of a kind: that of its first signature, and of all others if the kind is not that
of time-based values. -/
def EntityKind.builder (kind : EntityKind) : Builder :=
  ((Schema.builtin kind).signatures.head (signatures_ne_nil kind)).build

/-- One argument per parameter, whatever the signatures of the schema. -/
def Schema.allArguments (s : Schema) (policy : BooleanPolicy) (nested : PlainDecoder)
    (r : FieldRecord) (c : Context) : Except Failure Arguments :=
  Arguments.mk <$> s.parameters.mapM fun p => Prod.mk p.name <$> p.plainArgument policy nested r c

/-- Builds an entity of a kind from what its parameters find in a record and a context. -/
def EntityKind.assemble (kind : EntityKind) (policy : BooleanPolicy) (nested : PlainDecoder)
    (r : FieldRecord) (c : Context) : Except Failure Entity := do
  let arguments ← (Schema.builtin kind).allArguments policy nested r c
  (kind.builder arguments).mapError ((Schema.builtin kind).fault arguments)

/-- Assembles entities that are embedded in each other to a depth. -/
def assembleWithin (policy : BooleanPolicy) : Nat → PlainDecoder
  | 0, kind, _, _ => .error (.config s!"{kind.name} catalog: nests too deeply")
  | depth + 1, kind, r, c =>
    match kind.known? c with
    | some e => .ok (.entity e)
    | none => Value.entity <$> kind.assemble policy (assembleWithin policy depth) r c

/-! ## Selected signatures -/

namespace Schema

/-- A parameter is optional if some signature does without it. -/
def IsOptional (s : Schema) (name : String) : Prop :=
  ∃ signature ∈ s.signatures, signature.binds name = false

variable {kind : EntityKind} {parameters : List Parameter} {optional : List String}
  {build : Builder} {r : FieldRecord} {c : Context} {signature : Signature} {name : String}

theorem binds_variant {chosen : List String} :
    (variant parameters optional build chosen).binds name = true ↔
      ((∃ p ∈ parameters, p.name = name) ∧ name ∉ optional) ∨ name ∈ chosen :=
  List.contains_iff_mem.trans mem_parameters_variant

theorem isOptional_withOptional {p : Parameter} (mem : p ∈ parameters) :
    (withOptional kind parameters optional build).IsOptional p.name ↔ p.name ∈ optional := by
  constructor
  · rintro ⟨signature, variant, without⟩
    obtain ⟨chosen, -, rfl⟩ := List.mem_map.1 variant
    by_contra needed
    have binds : (Schema.variant parameters optional build chosen).binds p.name = true :=
      binds_variant.2 (.inl ⟨⟨p, mem, rfl⟩, needed⟩)
    cases binds.symm.trans without
  · intro free
    refine ⟨variant parameters optional build [],
      List.mem_map_of_mem (nil_mem_subsets optional), ?_⟩
    rw [Bool.eq_false_iff]
    intro binds
    rcases binds_variant.1 binds with ⟨-, needed⟩ | taken
    · exact needed free
    · cases taken

/-- An optional parameter consumes the field of its name. -/
theorem fields_of_isOptional (plain : kind ≠ .timeBasedValue) {p : Parameter}
    (mem : p ∈ (builtin kind).parameters) (free : (builtin kind).IsOptional p.name) :
    p.fields = [p.name] := by
  obtain ⟨optional, build, schema, h⟩ := exists_withOptional plain
  rw [schema, isOptional_withOptional mem] at free
  exact h.fields_eq mem free

/-- All signatures have the builder of the kind. -/
theorem build_of_mem_signatures (plain : kind ≠ .timeBasedValue)
    (mem : signature ∈ (builtin kind).signatures) : signature.build = kind.builder := by
  obtain ⟨optional, build, schema, -⟩ := exists_withOptional plain
  have built {s : Signature} (h : s ∈ (builtin kind).signatures) : s.build = build := by
    rw [schema] at h
    obtain ⟨chosen, -, rfl⟩ := List.mem_map.1 h
    rfl
  exact (built mem).trans (built (List.head_mem (signatures_ne_nil kind))).symm

/-- **Except for time-based values a signature is always selected.**  It binds the parameters that
are not optional, and those that are if the record or the context has their field. -/
theorem exists_select (plain : kind ≠ .timeBasedValue) (r : FieldRecord) (c : Context) :
    ∃ signature, (builtin kind).select r c = .ok signature ∧
      ∀ name, signature.binds name = true ↔
        (∃ p ∈ (builtin kind).parameters, p.name = name) ∧
          ((builtin kind).IsOptional name → (r.contains name || c.contains name) = true) := by
  obtain ⟨optional, build, schema, free⟩ := exists_withOptional plain
  refine ⟨variant (builtin kind).parameters optional build
    (optional.filter fun name => r.contains name || c.contains name), ?_, fun name => ?_⟩
  · rw [schema]
    exact free.select_withOptional r c
  · rw [binds_variant, List.mem_filter]
    constructor
    · rintro (⟨⟨p, mem, rfl⟩, needed⟩ | ⟨chosen, present⟩)
      · refine ⟨⟨p, mem, rfl⟩, fun optional => ?_⟩
        rw [schema, isOptional_withOptional mem] at optional
        exact absurd optional needed
      · obtain ⟨p, mem, same, -⟩ := free.own name chosen
        exact ⟨⟨p, mem, same⟩, fun _ => present⟩
    · rintro ⟨⟨p, mem, rfl⟩, present⟩
      rw [schema, isOptional_withOptional mem] at present
      by_cases chosen : p.name ∈ optional
      · exact .inr ⟨chosen, present chosen⟩
      · exact .inl ⟨⟨p, mem, rfl⟩, chosen⟩

end Schema

/-! ## Parameters outside the signature -/

section

variable {policy : BooleanPolicy} {kind : EntityKind} {r : FieldRecord} {c : Context}

/-- A parameter whose one field is neither in the record nor in the context is absent. -/
theorem plainArgument_of_absent {p : Parameter} (own : p.fields = [p.name])
    (field : r.contains p.name = false) (known : c.contains p.name = false)
    (nested : PlainDecoder) : p.plainArgument policy nested r c = .ok .null := by
  have unknown : c.get? p.name = none := (c.contains_eq_false_iff p.name).1 known
  have blank : r.get? p.name = none := (r.fields.contains_eq_false_iff p.name).1 field
  unfold Parameter.plainArgument
  rw [unknown]
  cases source : p.source with
  | direct leaf => rw [blank]
  | nested target fields =>
      have here : fields = [p.name] := by
        rw [← own, Parameter.fields, source]
      have inner : (r.restrict fields).isEmpty = true := by
        refine (r.fields.isEmpty_restrict_iff fields).2 fun name mem => ?_
        rw [here, List.mem_singleton] at mem
        rw [mem]
        exact field
      have outer : (c.restrict fields).isEmpty = true := by
        refine (c.isEmpty_restrict_iff fields).2 fun name mem => ?_
        rw [here, List.mem_singleton] at mem
        rw [mem]
        exact known
      simp only [inner, outer, Bool.and_self, ↓reduceIte]
  | reference target => rfl

theorem plainArgument_congr {p : Parameter} {nested nested' : PlainDecoder}
    (same : ∀ target fields, p.source = .nested target fields →
      ∀ r c, nested target r c = nested' target r c) :
    p.plainArgument policy nested r c = p.plainArgument policy nested' r c := by
  unfold Parameter.plainArgument
  cases source : p.source with
  | nested target fields => simp only [same target fields source]
  | direct _ | reference _ => rfl

/-- No time-based value is embedded in another entity. -/
theorem ne_timeBasedValue_of_embedded {target : EntityKind}
    (embedded : target ∈ (Schema.builtin kind).nestedKinds) : target ≠ .timeBasedValue := by
  rintro rfl
  exact absurd (nestedKinds_of_embedded embedded) (by decide)

/-- What the selected signature leaves out is absent anyway. -/
theorem plainArguments_eq_allArguments (plain : kind ≠ .timeBasedValue) {signature : Signature}
    (selected : (Schema.builtin kind).select r c = .ok signature) {nested nested' : PlainDecoder}
    (same : ∀ target ∈ (Schema.builtin kind).nestedKinds,
      ∀ r c, nested target r c = nested' target r c) :
    (Schema.builtin kind).plainArguments signature policy nested r c =
      (Schema.builtin kind).allArguments policy nested' r c := by
  obtain ⟨_, selected', binds⟩ := Schema.exists_select plain r c
  cases selected.symm.trans selected'
  refine congrArg _ (Outcome.mapM_congr fun p mem => congrArg _ ?_)
  by_cases bound : signature.binds p.name = true
  · rw [if_pos bound]
    exact plainArgument_congr fun target _ source => same target (Schema.mem_nestedKinds mem source)
  · rw [if_neg bound]
    rw [binds, and_iff_right ⟨p, mem, rfl⟩, Classical.not_imp, Bool.not_eq_true,
      Bool.or_eq_false_iff] at bound
    obtain ⟨free, field, known⟩ := bound
    exact (plainArgument_of_absent (Schema.fields_of_isOptional plain mem free) field known _).symm

theorem plainConstruct_eq_assemble (plain : kind ≠ .timeBasedValue) {nested nested' : PlainDecoder}
    (same : ∀ target ∈ (Schema.builtin kind).nestedKinds,
      ∀ r c, nested target r c = nested' target r c) (r : FieldRecord) (c : Context) :
    (Schema.builtin kind).plainConstruct policy nested r c = kind.assemble policy nested' r c := by
  obtain ⟨signature, selected, -⟩ := Schema.exists_select plain r c
  have builder := Schema.build_of_mem_signatures plain (mem_signatures_of_select selected)
  unfold Schema.plainConstruct EntityKind.assemble
  rw [selected, ← builder, ← plainArguments_eq_allArguments plain selected same]
  rfl

/-- **Embedded entities are assembled as they are decoded.** -/
theorem plainWithin_eq_assembleWithin (plain : kind ≠ .timeBasedValue) (depth : Nat)
    (r : FieldRecord) (c : Context) :
    plainWithin policy depth kind r c = assembleWithin policy depth kind r c := by
  induction depth generalizing kind r c with
  | zero => rfl
  | succ depth ih =>
      unfold plainWithin assembleWithin
      cases kind.known? c with
      | some e => rfl
      | none =>
          refine congrArg (Value.entity <$> ·) (plainConstruct_eq_assemble plain ?_ r c)
          intro target embedded
          exact ih (ne_timeBasedValue_of_embedded embedded)

/-- **Constructing an entity comes to assembling it.**  Except for time-based values, a signature is
selected for every record in every context; it binds the parameters that no signature does without,
and of the optional ones those that the record or the context has.  What is constructed is what is
assembled without any signature, failures included. -/
theorem construct_eq_assemble {registry : Registry} (hr : registry.IsBuiltin policy)
    (plain : kind ≠ .timeBasedValue) (r : FieldRecord) (c : Context) :
    (∃ signature, (Schema.builtin kind).select r c = .ok signature ∧
      ∀ name, signature.binds name = true ↔
        (∃ p ∈ (Schema.builtin kind).parameters, p.name = name) ∧
          ((Schema.builtin kind).IsOptional name → (r.contains name || c.contains name) = true)) ∧
      (Registry.construct kind r c registry).1 =
        kind.assemble policy (assembleWithin policy EntityKind.all.length) r c := by
  refine ⟨Schema.exists_select plain r c, ?_⟩
  have constructed : (Registry.construct kind r c).Yields policy
      ((Schema.builtin kind).plainConstruct policy (plainWithin policy EntityKind.all.length)
        r c) :=
    (Registry.yields_schemaFor kind).bind_ok
      (yields_construct (Schema.builtin kind) (yields_decodeWithin _) r c)
  rw [ComesTo.eq constructed hr]
  refine plainConstruct_eq_assemble plain (fun target embedded => ?_) r c
  exact plainWithin_eq_assembleWithin (ne_timeBasedValue_of_embedded embedded) _

end

/-- A row of a node with the two fields of its voltage level and, of the optional ones, the start of
operation. -/
def nodeRow (voltage : String) : FieldRecord :=
  .ofList [("uuid", "3d2a1b4c-0001-4000-8000-000000000001"), ("id", "node"), ("vtarget", "1"),
    ("slack", "false"), ("voltlvl", "low voltage"), ("vrated", voltage), ("subnet", "1"),
    ("operatesfrom", "2020-01-01T00:00:00Z")]

/-- The code of the failure that an outcome is. -/
def failureCode? (outcome : Except Failure Entity) : Option String :=
  match outcome with
  | .ok _ => none
  | .error f => some f.code

/-- A node with a start of operation is constructed with its voltage level, and a malformed voltage
is reported, both by the signature with that one optional parameter. -/
theorem construct_eq_assemble_node :
    (∀ voltage ∈ ["0.4", "low"],
      ((Schema.builtin .node).select (nodeRow voltage) .empty).toOption.map Signature.name =
        some "operatesfrom") ∧
      failureCode? (Registry.construct .node (nodeRow "0.4") .empty strictRegistry).1 = none ∧
      failureCode? (Registry.construct .node (nodeRow "low") .empty strictRegistry).1 =
        some "parsing" := by
  have assembled (voltage : String) :
      (Registry.construct .node (nodeRow voltage) .empty strictRegistry).1 =
        EntityKind.assemble .node .strict (assembleWithin .strict EntityKind.all.length)
          (nodeRow voltage) .empty :=
    (construct_eq_assemble isBuiltin_strictRegistry (by decide) (nodeRow voltage) .empty).2
  rw [assembled "0.4", assembled "low"]
  exact ⟨by decide, by decide, by decide⟩

end GridRecords
