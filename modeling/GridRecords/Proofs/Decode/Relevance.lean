/-
# What decoding depends on

Two records are decoded to the same result when they have the same known fields and the same texts
in those that are read (`ReadAlike`): fields of parameters that the selected signature binds and
that the context does not supply.  Fields that the schema does not know, texts of references and
texts of whatever the context supplies are never read.

The fields of an embedded entity agree wherever the context leaves them open (`AgreeOpen`), which is
more than decoding any kind asks for, so one induction on the depth of embedded entities does it
(`plainWithin_of_readAlike`).
-/
import GridRecords.Proofs.Schema.Selection
import GridRecords.Proofs.Decode.WriteBack

namespace GridRecords

open Decoding

/-! ## Records that are read alike -/

/-- The fields whose text a parameter reads. -/
def Parameter.texts (p : Parameter) : List String :=
  match p.source with
  | .direct _ => [p.name]
  | .nested _ fields => fields
  | .reference _ => []

/-- Records have the same fields, and the same texts in those that a context leaves open. -/
structure AgreeOpen (c : Context) (r r' : FieldRecord) : Prop where
  fields : ∀ name, r.contains name = r'.contains name
  texts : ∀ name, c.contains name = false → r.get? name = r'.get? name

/-- Records have the same fields among those that a schema knows, and the same texts in those that
parameters of the selected signature read and a context leaves open. -/
structure ReadAlike (s : Schema) (c : Context) (r r' : FieldRecord) : Prop where
  fields : ∀ name ∈ s.known, r.contains name = r'.contains name
  texts : ∀ signature, s.select r c = .ok signature → ∀ p ∈ s.parameters,
    signature.binds p.name = true → c.contains p.name = false →
      ∀ name ∈ p.texts, c.contains name = false → r.get? name = r'.get? name

variable {c : Context} {r r' : FieldRecord} {s : Schema} {policy : BooleanPolicy}

theorem AgreeOpen.readAlike (h : AgreeOpen c r r') : ReadAlike s c r r' :=
  ⟨fun name _ => h.fields name, fun _ _ _ _ _ _ name _ => h.texts name⟩

/-- Records that agree in the fields that a schema knows are read alike. -/
theorem ReadAlike.of_known (h : ∀ name ∈ s.known, r.get? name = r'.get? name) :
    ReadAlike s c r r' := by
  constructor
  · intro name mem
    exact congrArg Option.isSome (h name mem)
  · intro _ _ p mem _ _ name read _
    refine h name (Schema.mem_known.2 ⟨p, mem, ?_⟩)
    unfold Parameter.texts at read
    unfold Parameter.fields
    cases source : p.source with
    | direct leaf => simpa only [source] using read
    | nested target fields => simpa only [source] using read
    | reference target =>
        rw [source] at read
        cases read

/-- It is enough to compare records in the fields that they have. -/
theorem AgreeOpen.of_keys (keys : r.keys = r'.keys)
    (texts : ∀ name ∈ r.keys, c.contains name = false → r.get? name = r'.get? name) :
    AgreeOpen c r r' := by
  have fields (name : String) : r.contains name = r'.contains name := by
    refine Bool.eq_iff_iff.2 ((r.fields.contains_iff name).trans ?_)
    refine Iff.trans ?_ (r'.fields.contains_iff name).symm
    exact iff_of_eq (congrArg (name ∈ ·) keys)
  refine ⟨fields, fun name unknown => ?_⟩
  by_cases mem : name ∈ r.keys
  · exact texts name mem unknown
  · have absent : r.contains name = false :=
      Bool.eq_false_iff.2 fun here => mem ((r.fields.contains_iff name).1 here)
    have absent' : r'.contains name = false := (fields name).symm.trans absent
    exact ((r.fields.contains_eq_false_iff name).1 absent).trans
      ((r'.fields.contains_eq_false_iff name).1 absent').symm

/-- The fields of an embedded entity agree where the context leaves them open. -/
theorem ReadAlike.agreeOpen (h : ReadAlike s c r r') {signature : Signature}
    (selected : s.select r c = .ok signature) {p : Parameter} (mem : p ∈ s.parameters)
    (binds : signature.binds p.name = true) (unknown : c.contains p.name = false)
    {target : EntityKind} {fields : List String} (source : p.source = .nested target fields) :
    AgreeOpen (c.restrict fields) (r.restrict fields) (r'.restrict fields) := by
  have known (name : String) (inner : name ∈ fields) : name ∈ s.known := by
    refine Schema.mem_known.2 ⟨p, mem, ?_⟩
    rw [Parameter.fields, source]
    exact inner
  have texts : p.texts = fields := by
    rw [Parameter.texts, source]
  constructor
  · intro name
    show (r.fields.restrict fields).contains name = (r'.fields.restrict fields).contains name
    rw [Table.contains_restrict, Table.contains_restrict]
    by_cases inner : name ∈ fields
    · exact congrArg _ (h.fields name (known name inner))
    · simp [inner]
  · intro name open_
    show (r.fields.restrict fields).get? name = (r'.fields.restrict fields).get? name
    rw [Table.contains_restrict] at open_
    rw [Table.get?_restrict, Table.get?_restrict]
    by_cases inner : name ∈ fields
    · simp only [inner, decide_true, Bool.true_and, if_true] at open_ ⊢
      exact h.texts signature selected p mem binds unknown name (texts ▸ inner) open_
    · simp [inner]

/-! ## Decoding -/

namespace LeafKind

/-- A leaf is read from the text that is looked for first among those that the context leaves
open. -/
theorem decodeRecord_of_agreeOpen (kind : LeafKind) (h : AgreeOpen c r r') :
    kind.decodeRecord policy r c = kind.decodeRecord policy r' c := by
  have keys : r.keys = r'.keys := Table.keys_congr h.fields
  have open_ : r.fields.filter (!c.contains ·) = r'.fields.filter (!c.contains ·) := by
    apply Table.ext_get?
    intro name
    rw [Table.get?_filter, Table.get?_filter]
    cases known : c.contains name with
    | true => rfl
    | false => exact h.texts name known
  have first : (r.toList.find? fun x => !c.contains x.1) =
      r'.toList.find? fun x => !c.contains x.1 := by
    rw [← List.head?_filter, ← List.head?_filter]
    exact congrArg (·.entries.head?) open_
  unfold decodeRecord
  cases known : c.get? valueField with
  | some value => rfl
  | none =>
      have value := h.texts valueField ((c.contains_eq_false_iff valueField).2 known)
      simp only [value, first, keys]

end LeafKind

/-- The text of an argument is read only where the context does not supply it. -/
theorem plainArgument_of_readAlike (h : ReadAlike s c r r') {signature : Signature}
    (selected : s.select r c = .ok signature) {p : Parameter} (mem : p ∈ s.parameters)
    (binds : signature.binds p.name = true) {nested : PlainDecoder}
    (embedded : ∀ target c r r', AgreeOpen c r r' → nested target r c = nested target r' c) :
    p.plainArgument policy nested r c = p.plainArgument policy nested r' c := by
  unfold Parameter.plainArgument
  cases known : c.get? p.name with
  | some value => rfl
  | none =>
      have unknown := (c.contains_eq_false_iff p.name).2 known
      cases source : p.source with
      | direct leaf =>
          have read : p.name ∈ p.texts := by
            rw [Parameter.texts, source]
            exact List.mem_singleton_self p.name
          rw [h.texts signature selected p mem binds unknown p.name read unknown]
      | nested target fields =>
          have agree := h.agreeOpen selected mem binds unknown source
          have empty : (r.restrict fields).isEmpty = (r'.restrict fields).isEmpty :=
            Table.isEmpty_congr agree.fields
          simp only [empty, embedded target _ _ _ agree]
      | reference target => rfl

theorem plainConstruct_of_readAlike (h : ReadAlike s c r r') {nested : PlainDecoder}
    (embedded : ∀ target c r r', AgreeOpen c r r' → nested target r c = nested target r' c) :
    s.plainConstruct policy nested r c = s.plainConstruct policy nested r' c := by
  unfold Schema.plainConstruct
  rw [← Schema.select_congr h.fields]
  cases selected : s.select r c with
  | error f => rfl
  | ok signature =>
      have arguments : s.plainArguments signature policy nested r c =
          s.plainArguments signature policy nested r' c := by
        refine congrArg _ (Outcome.mapM_congr fun p mem => congrArg _ ?_)
        by_cases bound : signature.binds p.name = true
        · rw [if_pos bound, if_pos bound]
          exact plainArgument_of_readAlike h selected mem bound embedded
        · rw [if_neg bound, if_neg bound]
      exact congrArg (· >>= fun a => (signature.build a).mapError (s.fault a)) arguments

/-- **Records that are read alike are decoded alike.** -/
theorem plainWithin_of_readAlike (depth : Nat) {kind : EntityKind}
    (h : ReadAlike (Schema.builtin kind) c r r') :
    plainWithin policy depth kind r c = plainWithin policy depth kind r' c := by
  induction depth generalizing kind c r r' with
  | zero => rfl
  | succ depth ih =>
      unfold plainWithin
      cases kind.known? c with
      | some e => rfl
      | none =>
          refine congrArg (Value.entity <$> ·) (plainConstruct_of_readAlike h ?_)
          intro target c r r' agree
          exact ih agree.readAlike

theorem yields_decode_leaf (kind : LeafKind) (r : FieldRecord) (c : Context) :
    (Registry.decode (.leaf kind) r c).Yields policy (kind.decodeRecord policy r c) :=
  (Registry.yields_resolve_leaf kind).bind_ok (.lift _)

/-- **Only what is read matters.**  Records that are read alike by the schema of a kind are decoded
to the same entity, or fail with the same failure.  Records with the same fields that agree in
those that the context leaves open are decoded to the same leaf value. -/
theorem decode_eq_of_readAlike {registry registry' : Registry} (hr : registry.IsBuiltin policy)
    (hr' : registry'.IsBuiltin policy) (c : Context) (r r' : FieldRecord) :
    (∀ kind, ReadAlike (Schema.builtin kind) c r r' →
      (Registry.decode (.entity kind) r c registry).1 =
        (Registry.decode (.entity kind) r' c registry').1) ∧
    ∀ kind, AgreeOpen c r r' →
      (Registry.decode (.leaf kind) r c registry).1 =
        (Registry.decode (.leaf kind) r' c registry').1 := by
  constructor
  · intro kind alike
    have first : (Registry.decode (.entity kind) r c registry).1 = _ :=
      ComesTo.eq (yields_decodeWithin _ kind r c) hr
    have second : (Registry.decode (.entity kind) r' c registry').1 = _ :=
      ComesTo.eq (yields_decodeWithin _ kind r' c) hr'
    rw [first, second]
    exact plainWithin_of_readAlike _ alike
  · intro kind agree
    rw [ComesTo.eq (yields_decode_leaf kind r c) hr, ComesTo.eq (yields_decode_leaf kind r' c) hr']
    exact kind.decodeRecord_of_agreeOpen agree

/-- A row of an energy manager with a field that the schema does not know. -/
def colouredRow (colour id operator : String) : FieldRecord :=
  .ofList [("uuid", "3d2a1b4c-0001-4000-8000-000000000001"), ("id", id),
    ("controlstrategy", "self"), ("operator", operator), ("colour", colour)]

/-- A row with a known name and with an amount. -/
def amountRow (name : String) : FieldRecord := .ofList [("amount", "12"), ("name", name)]

/-- A context that supplies names. -/
def named : Context := Table.ofList [("id", .text "north"), ("name", .text "north")]

/-- To an energy manager neither an unknown field nor the text of a reference nor that of a field
that the context supplies makes a difference, and the last one makes none to an integer. -/
theorem decode_eq_of_readAlike_managers :
    (Registry.decode (.entity .energyManager) (colouredRow "red" "manager" "") named
        strictRegistry).1 =
      (Registry.decode (.entity .energyManager) (colouredRow "blue" "south" "nobody") named
        strictRegistry).1 ∧
    (Registry.decode (.leaf .integer) (amountRow "") named strictRegistry).1 =
      (Registry.decode (.leaf .integer) (amountRow "south") named strictRegistry).1 := by
  constructor
  · refine (decode_eq_of_readAlike isBuiltin_strictRegistry isBuiltin_strictRegistry _ _ _).1
      .energyManager ⟨by decide, ?_⟩
    have read : ∀ p ∈ (Schema.builtin .energyManager).parameters, ∀ name ∈ p.texts,
        named.contains name = false → (colouredRow "red" "manager" "").get? name =
          (colouredRow "blue" "south" "nobody").get? name := by
      decide
    exact fun _ _ p mem _ _ => read p mem
  · refine (decode_eq_of_readAlike isBuiltin_strictRegistry isBuiltin_strictRegistry _ _ _).2
      .integer (AgreeOpen.of_keys (by decide) (by decide))

end GridRecords
