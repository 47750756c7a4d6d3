/-
# Decoded entities obey the rules

Values from the context reach the builders without being read from text, so nothing is known of
their types, units or magnitudes; of the entities among them it is known that constructors accept
them.  That is enough: a builder gives its entity through the constructor, from a window of
operation that was checked (`window_of_build`) and from embedded entities that came from the
context or were decoded themselves (`accepted_of_plainArgument`).  So decoding gives accepted
entities only (`accepts_plainWithin`), and these obey the rules of the domain.
-/
import GridRecords.Proofs.Decode.Assembly
import GridRecords.Proofs.Decode.WriteBack
import GridRecords.Proofs.Model.Rules

namespace GridRecords

variable {policy : BooleanPolicy} {kind : EntityKind} {r : FieldRecord} {c : Context}

/-! ## What builders check beside the constructors -/

section

variable {signature : Signature} {a : Arguments} {e : Entity}

/-- An operated asset starts with its arguments for all assets. -/
theorem exists_asset_of_build (mem : signature ∈ (Schema.builtin kind).signatures)
    (build : signature.build a = .ok e) {x : Asset} (operated : e.asset? = some x) :
    ∃ y, a.asset = .ok y := by
  have same := (Schema.keeps_builtin kind signature mem a e build).1
  rw [Schema.kind_builtin] at same
  subst same
  cases e <;> cases operated
  all_goals
    obtain ⟨chosen, -, rfl⟩ := List.mem_map.1 mem
    obtain ⟨y, built, -⟩ := Outcome.bind_eq_ok.1 build
    exact ⟨y, built⟩

/-- An asset writes its columns in every row that is its own. -/
theorem Entity.mem_ownColumns_of_asset {x : Asset} (operated : e.asset? = some x)
    {column : String × Value} (mem : column ∈ x.columns) : column ∈ e.ownColumns := by
  cases e <;> cases operated
  case thermalBus => exact mem
  all_goals exact List.mem_append_left _ mem

/-- Instants are kept unchanged. -/
theorem Value.KeptAs.instant_eq {given : Value} {t : Option Timestamp}
    (h : given.KeptAs (instant t)) : given = instant t := by
  cases t <;> cases h <;> rfl

theorem instant_injective {s t : Option Timestamp} (h : instant s = instant t) : s = t := by
  cases s <;> cases t <;> cases h <;> rfl

/-- **The window of an operated asset was checked.** -/
theorem window_of_build (mem : signature ∈ (Schema.builtin kind).signatures)
    (build : signature.build a = .ok e) {x : Asset} (operated : e.asset? = some x) :
    x.operationTime.Built := by
  obtain ⟨y, built⟩ := exists_asset_of_build mem build operated
  obtain ⟨-, -, -, time⟩ := Arguments.asset_eq_ok.1 built
  obtain ⟨start, finish, from', until', checked⟩ := Arguments.operationTime_eq_ok.1 time
  have kept := (Schema.keeps_builtin kind signature mem a e build).2
  have started := kept.columns ("operatesfrom", instant x.operationTime.start)
    (Entity.mem_ownColumns_of_asset operated (by simp [Asset.columns]))
  have ended := kept.columns ("operatesuntil", instant x.operationTime.finish)
    (Entity.mem_ownColumns_of_asset operated (by simp [Asset.columns]))
  have start_eq := instant_injective (from'.symm.trans started.instant_eq)
  have finish_eq := instant_injective (until'.symm.trans ended.instant_eq)
  rw [start_eq, finish_eq] at checked
  -- the window holds its two bounds and nothing else, so it is the one that was checked
  have same := OperationTime.of_checked checked
  rw [same] at checked
  exact ⟨_, _, checked⟩

/-- No operator is built under the uuid that means none. -/
theorem ne_reserved_of_build {o : Operator}
    (mem : signature ∈ (Schema.builtin kind).signatures)
    (build : signature.build a = .ok (.operator o)) : o.uuid ≠ Operator.reservedUuid := by
  have same := (Schema.keeps_builtin kind signature mem a _ build).1
  rw [Schema.kind_builtin] at same
  subst same
  obtain ⟨chosen, -, rfl⟩ := List.mem_map.1 mem
  obtain ⟨uuid, -, build⟩ := Outcome.bind_eq_ok.1 build
  obtain ⟨id, -, build⟩ := Outcome.bind_eq_ok.1 build
  obtain ⟨o', checked, same⟩ := Outcome.map_eq_ok.1 build
  cases same
  obtain ⟨free, rfl⟩ := Operator.checked_eq_ok.1 (Arguments.checked_eq_ok.1 checked)
  exact free

end

/-! ## Accepted entities -/

/-- The constructors accept the entities that a context holds. -/
def Context.Accepted (c : Context) : Prop :=
  ∀ name x, c.get? name = some (.entity x) → x.Accepted

theorem Context.Accepted.restrict (h : c.Accepted) (names : List String) :
    Context.Accepted (c.restrict names) := by
  intro name x found
  rw [Table.get?_restrict] at found
  split at found
  · exact h name x found
  · cases found

/-- The entity that is known is one of the kind, and one of the context. -/
theorem get?_of_known {e : Entity} (known : kind.known? c = some e) :
    e.kind = kind ∧ c.get? kind.key = some (.entity e) := by
  unfold EntityKind.known? at known
  split at known
  · rename_i e' found
    split at known
    · rename_i same
      cases known
      exact ⟨same, found⟩
    · cases known
  · cases known

/-- In a context of accepted entities a decoder for embedded entities gives accepted ones. -/
def PlainDecoder.Accepts (nested : PlainDecoder) : Prop :=
  ∀ target r c v, Context.Accepted c → nested target r c = .ok v →
    ∃ x, v = .entity x ∧ x.kind = target ∧ x.Accepted

section

variable {nested : PlainDecoder} {p : Parameter}

theorem accepted_of_plainArgument (accepts : nested.Accepts) (accepted : c.Accepted) {x : Entity}
    (h : p.plainArgument policy nested r c = .ok (.entity x)) : x.Accepted := by
  cases known : c.get? p.name with
  | some value =>
      unfold Parameter.plainArgument at h
      rw [known] at h
      cases h
      exact accepted p.name x known
  | none =>
      rcases argument_cases h known with null | ⟨leaf, raw, -, -, text⟩ |
          ⟨target, fields, -, inner⟩
      · cases null
      · exact absurd text decode_ne_entity
      · obtain ⟨y, eq, -, done⟩ := accepts target _ _ _ (accepted.restrict fields) inner
        cases eq
        exact done

/-- A constructed entity is accepted if those decoded for it are. -/
theorem accepted_of_plainConstruct (accepts : nested.Accepts) (accepted : c.Accepted)
    {e : Entity} (h : (Schema.builtin kind).plainConstruct policy nested r c = .ok e) :
    e.kind = kind ∧ e.Accepted := by
  obtain ⟨signature, select, a, arguments, build⟩ := plainConstruct_eq_ok.1 h
  have mem := mem_signatures_of_select select
  obtain ⟨same, kept⟩ := Schema.keeps_builtin kind signature mem a e build
  rw [Schema.kind_builtin] at same
  refine ⟨same, kept.checked, ?_, fun x operated => window_of_build mem build operated⟩
  intro x part
  have value := kept.embedded x part
  have given : a.get x.1 ≠ .null := by
    rw [value]
    simp
  obtain ⟨p, -, -, argument⟩ := exists_plainArgument (nodup_parameters kind) arguments given
  rw [value] at argument
  exact (accepted_of_plainArgument accepts accepted argument).checked

end

/-- **In a context of accepted entities decoding gives accepted ones.** -/
theorem accepts_plainWithin (policy : BooleanPolicy) (depth : Nat) :
    PlainDecoder.Accepts (plainWithin policy depth) := by
  induction depth with
  | zero =>
      intro target r c v _ h
      cases h
  | succ depth ih =>
      intro target r c v accepted h
      cases known : target.known? c with
      | some e =>
          unfold plainWithin at h
          rw [known] at h
          cases h
          obtain ⟨same, held⟩ := get?_of_known known
          exact ⟨e, rfl, same, accepted _ e held⟩
      | none =>
          obtain ⟨e, built, rfl⟩ := (plainWithin_succ_eq_ok known).1 h
          exact ⟨e, rfl, accepted_of_plainConstruct ih accepted built⟩

theorem accepted_of_plainEntity {e : Entity} (accepted : c.Accepted)
    (h : plainEntity policy kind r c = .ok e) : e.kind = kind ∧ e.Accepted := by
  unfold plainEntity at h
  obtain ⟨v, decoded, kept⟩ := Outcome.bind_eq_ok.1 h
  obtain ⟨x, rfl, same, done⟩ := accepts_plainWithin _ _ _ _ _ _ accepted decoded
  cases Outcome.pure_eq_ok.1 kept
  exact ⟨same, done⟩

/-! ## Whole numbers -/

/-- A record in a context gives a whole number for a field: the context knows it, or it knows
nothing and the text of the field is that number. -/
def GivesInteger (r : FieldRecord) (c : Context) (field : String) (n : Int) : Prop :=
  c.get? field = some (.int n) ∨
    c.get? field = none ∧
      ∃ raw, r.get? field = some raw ∧ readInteger (Text.trim raw.toList) = .ok n

theorem readInteger_of_decode {leaf : LeafKind} {raw : String} {n : Int}
    (h : leaf.decode policy raw = .ok (.int n)) : readInteger (Text.trim raw.toList) = .ok n := by
  rcases decode_eq_ok_iff.1 h with ⟨-, -, absent⟩ | ⟨-, read⟩
  · cases absent
  · cases leaf <;> simp only [LeafKind.readValue, Outcome.mapError_eq_ok,
      Outcome.exceptMap_eq_ok, reduceCtorEq, and_false, exists_false, Except.ok.injEq,
      Value.int.injEq, exists_eq_right] at read
    case boolean => split at read <;> cases read
    case integer => exact read

theorem givesInteger_of_plainArgument {nested : PlainDecoder} {p : Parameter}
    (accepts : nested.Accepts) (accepted : c.Accepted) {n : Int}
    (h : p.plainArgument policy nested r c = .ok (.int n)) : GivesInteger r c p.name n := by
  cases known : c.get? p.name with
  | some value =>
      unfold Parameter.plainArgument at h
      rw [known] at h
      cases h
      exact .inl known
  | none =>
      rcases argument_cases h known with null | ⟨leaf, raw, -, field, text⟩ |
          ⟨target, fields, -, inner⟩
      · cases null
      · exact .inr ⟨known, raw, field, readInteger_of_decode text⟩
      · obtain ⟨x, eq, -, -⟩ := accepts target _ _ _ (accepted.restrict fields) inner
        cases eq

/-- The whole numbers of thirty-two bits that an entity holds, by the fields they are written in. -/
def Entity.words : Entity → List (String × UInt32)
  | .node n => [("subnet", n.subnet)]
  | .line l => [("paralleldevices", l.parallelDevices)]
  | _ => []

/-- Whole numbers are kept unchanged. -/
theorem Value.KeptAs.int_eq {given : Value} {n : Int} (h : given.KeptAs (.int n)) :
    given = .int n := by
  cases h
  rfl

theorem Entity.mem_ownColumns_of_words {e : Entity} {field : String} {w : UInt32}
    (mem : (field, w) ∈ e.words) : (field, Value.int w.toNat) ∈ e.ownColumns := by
  cases e
  case node n =>
    cases List.mem_singleton.1 mem
    exact List.mem_append_right _ (by simp)
  case line l =>
    cases List.mem_singleton.1 mem
    exact List.mem_append_right _ (by simp)
  all_goals cases mem

/-- **A number that does not fit is refused, never cut down.** -/
theorem givesInteger_of_plainConstruct {nested : PlainDecoder} (accepts : nested.Accepts)
    (accepted : c.Accepted) {e : Entity}
    (h : (Schema.builtin kind).plainConstruct policy nested r c = .ok e) {field : String}
    {w : UInt32} (mem : (field, w) ∈ e.words) : GivesInteger r c field w.toNat := by
  obtain ⟨signature, select, a, arguments, build⟩ := plainConstruct_eq_ok.1 h
  have kept := (Schema.keeps_builtin kind signature (mem_signatures_of_select select) a e build).2
  have value := (kept.columns _ (Entity.mem_ownColumns_of_words mem)).int_eq
  have given : a.get field ≠ .null := by
    rw [value]
    simp
  obtain ⟨p, -, rfl, argument⟩ := exists_plainArgument (nodup_parameters kind) arguments given
  rw [value] at argument
  exact givesInteger_of_plainArgument accepts accepted argument

/-! ## The rules -/

/-- **Decoded entities obey the rules of the domain.**  They are of the kind asked for, hold their
quantities in the output units of their fields, and obey the rules, whatever the context supplies
beside entities that constructors accept.  An entity that the context does not know itself is no
operator with the reserved uuid, and its whole numbers are those it was given. -/
theorem obeys_of_decodeEntity {registry : Registry} (builtin : registry.IsBuiltin policy)
    (accepted : c.Accepted) {e : Entity}
    (decoded : (Registry.decodeEntity kind r c registry).1 = .ok e) :
    e.kind = kind ∧ e.UnitsHeld ∧ e.Obeys ∧
      (kind.known? c = none →
        (∀ o, e = .operator o → o.uuid ≠ Operator.reservedUuid) ∧
          ∀ field w, (field, w) ∈ e.words → GivesInteger r c field w.toNat) := by
  obtain ⟨after, run, -⟩ := yields_decodeEntity kind r c registry builtin
  rw [run] at decoded
  obtain ⟨same, good⟩ := accepted_of_plainEntity accepted decoded
  refine ⟨same, good.unitsHeld, good.obeys, ?_⟩
  intro unknown
  have built := (plainEntity_eq_ok unknown).1 decoded
  constructor
  · rintro o rfl
    obtain ⟨signature, select, a, -, build⟩ := plainConstruct_eq_ok.1 built
    exact ne_reserved_of_build (mem_signatures_of_select select) build
  · intro field w mem
    exact givesInteger_of_plainConstruct (accepts_plainWithin policy 17) accepted built mem

/-- What a node is given by its context: an operator, an end of operation, a subnet, and a target
voltage in percent. -/
def nodeContext : Context :=
  Table.ofList
    [("operator", .entity (.operator ⟨⟨0x3d2a1b4c000240008000000000000002#128⟩, "company"⟩)),
      ("operatesuntil", .timestamp ⟨1893456000, 0, 0⟩), ("subnet", .int 7),
      ("vtarget", .quantity ⟨102.0, .percent⟩)]

theorem accepted_nodeContext : nodeContext.Accepted := by
  intro name x found
  unfold nodeContext at found
  rw [Table.get?_ofList (by decide)] at found
  have mem := mem_of_lookupEntry found
  simp only [List.mem_cons, Prod.mk.injEq, Value.entity.injEq, reduceCtorEq,
    and_false, List.not_mem_nil, or_false] at mem
  obtain ⟨-, rfl⟩ := mem
  exact (Entity.Built.operator (Operator.checked_eq_ok.2 ⟨by decide, rfl⟩)).accepted

/-- A node whose context supplies some of its arguments obeys the rules as well. -/
theorem obeys_of_decoded_node :
    ∃ n, (Registry.decodeEntity .node (nodeRow "380 kV") nodeContext strictRegistry).1 =
        .ok (.node n) ∧
      n.vTarget.unit = .perUnit ∧ n.operationTime.Ordered ∧
      n.voltageLevel.nominalVoltage.NonNegative ∧ n.subnet.toNat = 7 := by
  have decodes : (Registry.decodeEntity .node (nodeRow "380 kV") nodeContext
      strictRegistry).1.toOption.any (fun _ => true) = true := by decide +kernel
  obtain ⟨e, decoded, -⟩ := Outcome.exists_of_any decodes
  obtain ⟨same, units, rules, given⟩ :=
    obeys_of_decodeEntity isBuiltin_strictRegistry accepted_nodeContext decoded
  cases e <;> cases same
  rename_i n
  refine ⟨n, decoded, ?_, rules.window _ rfl, rules.amounts _ List.mem_cons_self, ?_⟩
  · have column : ("vtarget", Value.quantity n.vTarget) ∈ (Entity.node n).ownColumns :=
      List.mem_append_right _ List.mem_cons_self
    exact (Option.some.inj (units.of_mem_ownColumns column)).symm
  · have subnet := (given (by decide)).2 "subnet" n.subnet List.mem_cons_self
    have supplied : nodeContext.get? "subnet" = some (.int 7) := by
      unfold nodeContext
      rw [Table.get?_ofList (by decide)]
      rfl
    unfold GivesInteger at subnet
    rw [supplied] at subnet
    rcases subnet with same | ⟨none, -⟩
    · have eq := Value.int.inj (Option.some.inj same)
      omega
    · cases none

end GridRecords
