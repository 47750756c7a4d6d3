/-
# Where decoded entities come from

A record was decoded to an entity when one signature was selected, each of its parameters had an
argument, and the builder accepted the arguments (`plainWithin_succ_eq_ok`, `plainEntity_eq_ok`).
An argument is the value of its own parameter (`argument_of_plainArguments`), and it came from the
context, from the text of a field, or from the fields of an embedded entity (`argument_cases`).
-/
import GridRecords.Proofs.Decode.Builtin
import GridRecords.Proofs.Record.Lookup
import GridRecords.Proofs.Schema.Getters

namespace GridRecords

variable {policy : BooleanPolicy} {kind : EntityKind} {r : FieldRecord} {c : Context} {s : Schema}

/-! ## Construction -/

theorem plainConstruct_eq_ok {nested : PlainDecoder} {e : Entity} :
    s.plainConstruct policy nested r c = .ok e ↔
      ∃ signature, s.select r c = .ok signature ∧
        ∃ a, s.plainArguments signature policy nested r c = .ok a ∧ signature.build a = .ok e := by
  unfold Schema.plainConstruct
  simp only [Outcome.bind_eq_ok, Outcome.mapError_eq_ok]

/-- Where the context does not know the entity itself, it is constructed. -/
theorem plainWithin_succ_eq_ok {depth : Nat} (unknown : kind.known? c = none) {v : Value} :
    plainWithin policy (depth + 1) kind r c = .ok v ↔
      ∃ e, (Schema.builtin kind).plainConstruct policy (plainWithin policy depth) r c = .ok e ∧
        .entity e = v := by
  unfold plainWithin
  rw [unknown]
  exact Outcome.map_eq_ok

theorem plainEntity_eq_ok (unknown : kind.known? c = none) {e : Entity} :
    plainEntity policy kind r c = .ok e ↔
      (Schema.builtin kind).plainConstruct policy (plainWithin policy 17) r c = .ok e := by
  unfold plainEntity
  rw [Outcome.bind_eq_ok]
  show (∃ v, plainWithin policy (17 + 1) kind r c = .ok v ∧ _) ↔ _
  constructor
  · rintro ⟨v, h, kept⟩
    obtain ⟨e', built, rfl⟩ := (plainWithin_succ_eq_ok unknown).1 h
    cases Outcome.pure_eq_ok.1 kept
    exact built
  · intro built
    exact ⟨.entity e, (plainWithin_succ_eq_ok unknown).2 ⟨e, built, rfl⟩, rfl⟩

theorem plainWithin_succ_eq_error {depth : Nat} (unknown : kind.known? c = none) {f : Failure}
    (h : (Schema.builtin kind).plainConstruct policy (plainWithin policy depth) r c = .error f) :
    plainWithin policy (depth + 1) kind r c = .error f := by
  unfold plainWithin
  rw [unknown, h]
  rfl

theorem plainEntity_eq_error {f : Failure}
    (h : plainWithin policy EntityKind.all.length kind r c = .error f) :
    plainEntity policy kind r c = .error f := by
  unfold plainEntity
  rw [h]
  rfl

/-! ## Arguments -/

/-- The selected signature is one of the schema. -/
theorem mem_signatures_of_select {signature : Signature} (h : s.select r c = .ok signature) :
    signature ∈ s.signatures := by
  simp only [Schema.select] at h
  split at h
  · rename_i one fits
    cases h
    have mem : signature ∈ s.fitting (s.supplied r c) := by
      rw [fits]
      exact List.mem_singleton_self _
    exact (List.mem_filter.1 mem).1
  · cases h

/-- Arguments of steps with different names are found under these names. -/
theorem lookupEntry_of_mapM {α β ε : Type} {name : α → String} {step : α → Except ε β}
    {xs : List α} {entries : List (String × β)}
    (h : (xs.mapM fun x => Prod.mk (name x) <$> step x) = .ok entries)
    (nodup : (xs.map name).Nodup) {x : α} (mem : x ∈ xs) :
    ∃ value, step x = .ok value ∧ lookupEntry (name x) entries = some value := by
  induction xs generalizing entries with
  | nil => cases mem
  | cons y rest ih =>
      rw [List.mapM_cons] at h
      simp only [Outcome.bind_eq_ok, Outcome.map_eq_ok, Outcome.pure_eq_ok] at h
      obtain ⟨_, ⟨value, one, rfl⟩, others, more, rfl⟩ := h
      rw [List.map_cons, List.nodup_cons] at nodup
      rcases List.mem_cons.1 mem with rfl | mem
      · exact ⟨value, one, by simp [lookupEntry]⟩
      · obtain ⟨value', step', found⟩ := ih more nodup.2 mem
        have other : name y ≠ name x := by
          intro eq
          exact nodup.1 (eq ▸ List.mem_map_of_mem mem)
        refine ⟨value', step', ?_⟩
        unfold lookupEntry
        rw [if_neg other.symm, found]

theorem map_fst_of_mapM {α β ε : Type} {name : α → String} {step : α → Except ε β}
    {xs : List α} {entries : List (String × β)}
    (h : (xs.mapM fun x => Prod.mk (name x) <$> step x) = .ok entries) :
    entries.map Prod.fst = xs.map name := by
  induction xs generalizing entries with
  | nil => cases h; rfl
  | cons y rest ih =>
      rw [List.mapM_cons] at h
      simp only [Outcome.bind_eq_ok, Outcome.map_eq_ok, Outcome.pure_eq_ok] at h
      obtain ⟨_, ⟨value, one, rfl⟩, others, more, rfl⟩ := h
      rw [List.map_cons, List.map_cons, ih more]

/-- **The argument of a parameter is the value of that parameter.** -/
theorem argument_of_plainArguments {signature : Signature} {nested : PlainDecoder} {a : Arguments}
    (nodup : (s.parameters.map Parameter.name).Nodup)
    (h : s.plainArguments signature policy nested r c = .ok a) {p : Parameter}
    (mem : p ∈ s.parameters) :
    (if signature.binds p.name then p.plainArgument policy nested r c else .ok .null) =
      .ok (a.get p.name) := by
  unfold Schema.plainArguments at h
  obtain ⟨values, steps, rfl⟩ := Outcome.map_eq_ok.1 h
  obtain ⟨value, step, found⟩ := lookupEntry_of_mapM steps nodup mem
  rw [Arguments.get_eq, found]
  exact step

/-- There is an argument for parameters only. -/
theorem exists_parameter_of_argument {signature : Signature} {nested : PlainDecoder} {a : Arguments}
    (h : s.plainArguments signature policy nested r c = .ok a) {name : String}
    (given : a.get name ≠ .null) : ∃ p ∈ s.parameters, p.name = name := by
  unfold Schema.plainArguments at h
  obtain ⟨values, steps, rfl⟩ := Outcome.map_eq_ok.1 h
  by_contra none
  apply given
  have absent : lookupEntry name values = Option.none := by
    rw [lookupEntry_eq_none_iff, map_fst_of_mapM steps]
    intro mem
    obtain ⟨p, mem, eq⟩ := List.mem_map.1 mem
    exact none ⟨p, mem, eq⟩
  rw [Arguments.get_eq, absent]
  rfl

/-- An argument that is not absent is one of a parameter in the signature. -/
theorem exists_plainArgument {signature : Signature} {nested : PlainDecoder} {a : Arguments}
    (nodup : (s.parameters.map Parameter.name).Nodup)
    (h : s.plainArguments signature policy nested r c = .ok a) {name : String}
    (given : a.get name ≠ .null) :
    ∃ p ∈ s.parameters, p.name = name ∧ p.plainArgument policy nested r c = .ok (a.get name) := by
  obtain ⟨p, mem, rfl⟩ := exists_parameter_of_argument h given
  refine ⟨p, mem, rfl, ?_⟩
  have value := argument_of_plainArguments nodup h mem
  split at value
  · exact value
  · exact absurd (Except.ok.inj value).symm given

/-- Parameters of one built-in schema have different names. -/
theorem nodup_parameters (kind : EntityKind) :
    ((Schema.builtin kind).parameters.map Parameter.name).Nodup := by
  cases kind <;> decide

/-- The name tells the parameters of a built-in schema apart. -/
theorem Parameter.eq_of_name {p q : Parameter} (hp : p ∈ (Schema.builtin kind).parameters)
    (hq : q ∈ (Schema.builtin kind).parameters) (h : p.name = q.name) : p = q :=
  List.inj_on_of_nodup_map (nodup_parameters kind) hp hq h

/-- An argument that the context does not give comes from the record, or there is none. -/
theorem argument_cases {p : Parameter} {nested : PlainDecoder} {v : Value}
    (h : p.plainArgument policy nested r c = .ok v) (unknown : c.get? p.name = none) :
    v = .null ∨
      (∃ leaf raw, p.source = .direct leaf ∧ r.get? p.name = some raw ∧
        leaf.decode policy raw = .ok v) ∨
      ∃ target fields, p.source = .nested target fields ∧
        nested target (r.restrict fields) (c.restrict fields) = .ok v := by
  unfold Parameter.plainArgument at h
  rw [unknown] at h
  cases source : p.source with
  | direct leaf =>
      rw [source] at h
      cases field : r.get? p.name with
      | none =>
          rw [field] at h
          exact .inl (Except.ok.inj h).symm
      | some raw =>
          rw [field] at h
          exact .inr (.inl ⟨leaf, raw, rfl, rfl, h⟩)
  | nested target fields =>
      rw [source] at h
      simp only at h
      split at h
      · exact .inl (Except.ok.inj h).symm
      · exact .inr (.inr ⟨target, fields, rfl, h⟩)
  | reference target =>
      rw [source] at h
      exact .inl (Except.ok.inj h).symm

/-- A parameter finds the same where its fields have the same texts and the context holds the same
under its name and under these fields. -/
theorem plainArgument_of_own {p : Parameter} {r' : FieldRecord} {c' : Context}
    (known : c'.get? p.name = c.get? p.name)
    (fields : ∀ name ∈ p.fields, r'.get? name = r.get? name ∧ c'.get? name = c.get? name)
    (nested : PlainDecoder) :
    p.plainArgument policy nested r' c' = p.plainArgument policy nested r c := by
  unfold Parameter.fields at fields
  unfold Parameter.plainArgument
  rw [known]
  cases c.get? p.name with
  | some value => rfl
  | none =>
      cases source : p.source with
      | direct leaf =>
          rw [source] at fields
          rw [(fields p.name List.mem_cons_self).1]
      | nested target inner =>
          rw [source] at fields
          have record : r'.restrict inner = r.restrict inner := by
            show FieldRecord.mk _ = FieldRecord.mk _
            rw [Table.restrict_congr fun name mem => (fields name mem).1]
          have context : c'.restrict inner = c.restrict inner :=
            Table.restrict_congr fun name mem => (fields name mem).2
          simp only [record, context]
      | reference target => rfl

/-! ## Texts of fields -/

/-- A field is absent where blank text says nothing, else its text is read. -/
theorem decode_eq_ok_iff {leaf : LeafKind} {raw : String} {v : Value} :
    leaf.decode policy raw = .ok v ↔
      (Text.trim raw.toList = [] ∧ leaf.acceptsBlank = false ∧ v = .null) ∨
      ((Text.trim raw.toList ≠ [] ∨ leaf.acceptsBlank = true) ∧
        leaf.readValue policy raw (Text.trim raw.toList) = .ok v) := by
  simp only [LeafKind.decode]
  cases text : Text.trim raw.toList <;> cases accepts : leaf.acceptsBlank <;>
    simp [eq_comm (a := v)]

/-- Texts are never read as entities. -/
theorem readValue_ne_entity {leaf : LeafKind} {raw : String} {text : List Char} {e : Entity} :
    leaf.readValue policy raw text ≠ .ok (.entity e) := by
  intro h
  cases leaf <;> simp only [LeafKind.readValue, Outcome.mapError_eq_ok,
    Outcome.exceptMap_eq_ok, reduceCtorEq, and_false, exists_false, Except.ok.injEq] at h
  case boolean => split at h <;> cases h

/-- The text of a field never decodes to an entity. -/
theorem decode_ne_entity {leaf : LeafKind} {raw : String} {e : Entity} :
    leaf.decode policy raw ≠ .ok (.entity e) := by
  intro h
  rcases decode_eq_ok_iff.1 h with ⟨-, -, absent⟩ | ⟨-, read⟩
  · cases absent
  · exact readValue_ne_entity read

/-- A quantity is read from text that is not blank, in the unit of its field. -/
theorem quantity_of_decode {leaf : LeafKind} {raw : String} {q : Quantity}
    (h : leaf.decode policy raw = .ok (.quantity q)) :
    ∃ unit, leaf = .quantity unit ∧ Quantity.read (Text.trimmed raw) unit = .ok q := by
  rcases decode_eq_ok_iff.1 h with ⟨-, -, absent⟩ | ⟨-, read⟩
  · cases absent
  · cases leaf <;> simp only [LeafKind.readValue, Outcome.mapError_eq_ok,
      Outcome.exceptMap_eq_ok, reduceCtorEq, and_false, exists_false, Except.ok.injEq,
      Value.quantity.injEq, exists_eq_right] at read
    case boolean => split at read <;> cases read
    case quantity unit => exact ⟨unit, rfl, read⟩

end GridRecords
