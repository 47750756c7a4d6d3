/-
# Policies on boolean text

The policy of a registry is asked for in one place: where the text of a boolean field is neither
blank nor one of the two words.  A lenient registry reads `false` there and a strict one fails, so
whatever the strict one decodes the lenient one decodes as well.  The converse holds of the record
in which all such texts were replaced by `false` (`FieldRecord.settled`).

Both are cases of one lemma.  Where each leaf field of a second record reads, under a second policy,
as that of the first does (`Refines`), the second record is decoded to the entity of the first
(`plainEntity_of_refines`).
-/
import GridRecords.Proofs.Decode.Missing

namespace GridRecords

open Decoding

variable {policy policy' : BooleanPolicy} {kind : EntityKind} {r r' : FieldRecord} {c : Context}
  {s : Schema} {leaf : LeafKind} {raw : String} {v : Value}

/-! ## Reading leaves -/

/-- What a policy makes of text that is neither of the two words. -/
def BooleanPolicy.fallback? : BooleanPolicy → Option Bool
  | .strict => none
  | .lenient => some false

namespace LeafKind

/-- The policy is asked for where the strict one reads nothing. -/
theorem readBool?_eq (policy : BooleanPolicy) (text : List Char) :
    readBool? policy text = (readBool? .strict text).or policy.fallback? := by
  unfold readBool?
  by_cases yes : text.map Char.toLower = "true".toList
  · simp only [if_pos yes, Option.some_or]
  · by_cases no : text.map Char.toLower = "false".toList
    · simp only [if_neg yes, if_pos no, Option.some_or]
    · simp only [if_neg yes, if_neg no, Option.none_or]
      cases policy <;> rfl

theorem readBool?_strict_eq_none_iff {text : List Char} : readBool? .strict text = none ↔
    text.map Char.toLower ∉ ["true".toList, "false".toList] := by
  unfold readBool?
  by_cases yes : text.map Char.toLower = "true".toList
  · simp [yes]
  · by_cases no : text.map Char.toLower = "false".toList
    · simp [no]
    · simp only [yes, no, if_false, List.mem_cons, List.not_mem_nil, or_self, not_false_eq_true]

/-- The policy matters to booleans only. -/
theorem decode_of_ne_boolean (other : leaf ≠ .boolean) :
    leaf.decode policy raw = leaf.decode policy' raw := by
  cases leaf
  case boolean => exact absurd rfl other
  all_goals rfl

/-- Whatever is read strictly is read. -/
theorem decode_of_strict (h : leaf.decode .strict raw = .ok v) :
    leaf.decode policy raw = .ok v := by
  by_cases boolean : leaf = .boolean
  · subst boolean
    rcases decode_eq_ok_iff.1 h with blank | ⟨filled, read⟩
    · exact decode_eq_ok_iff.2 (.inl blank)
    · refine decode_eq_ok_iff.2 (.inr ⟨filled, ?_⟩)
      unfold readValue at read ⊢
      simp only at read ⊢
      split at read
      · rename_i b strict
        rw [readBool?_eq, strict]
        exact read
      · cases read
  · rw [← h]
    exact decode_of_ne_boolean boolean

end LeafKind

/-! ## Refinement -/

/-- Two records have the same fields, and what one policy reads in a leaf field of the first a
second policy reads in that field of the second. -/
structure Refines (policy policy' : BooleanPolicy) (kind : EntityKind) (r r' : FieldRecord) :
    Prop where
  fields : ∀ name, r.contains name = r'.contains name
  texts : ∀ field leaf, (field, leaf) ∈ kind.leaves →
    ∀ raw raw', r.get? field = some raw → r'.get? field = some raw' →
      ∀ v, leaf.decode policy raw = .ok v → leaf.decode policy' raw' = .ok v

theorem Refines.restrict (h : Refines policy policy' kind r r') {p : Parameter}
    (mem : p ∈ (Schema.builtin kind).parameters) {target : EntityKind} {fields : List String}
    (source : p.source = .nested target fields) :
    Refines policy policy' target (r.restrict fields) (r'.restrict fields) := by
  constructor
  · intro name
    show (r.fields.restrict fields).contains name = (r'.fields.restrict fields).contains name
    rw [Table.contains_restrict, Table.contains_restrict]
    exact congrArg _ (h.fields name)
  · intro field leaf known raw raw' found found'
    rw [FieldRecord.get?_restrict] at found found'
    by_cases inner : field ∈ fields
    · rw [if_pos inner] at found found'
      exact h.texts field leaf (mem_leaves_of_nested mem source inner known) raw raw' found found'
    · rw [if_neg inner] at found
      cases found

/-- A decoder of embedded entities keeps what another one decodes when records are refined. -/
def KeepsRefined (policy policy' : BooleanPolicy) (nested nested' : PlainDecoder) : Prop :=
  ∀ target r r' c v, Refines policy policy' target r r' →
    nested target r c = .ok v → nested' target r' c = .ok v

theorem plainArgument_of_refines (h : Refines policy policy' kind r r') {p : Parameter}
    (mem : p ∈ (Schema.builtin kind).parameters) {nested nested' : PlainDecoder}
    (keeps : KeepsRefined policy policy' nested nested')
    (decoded : p.plainArgument policy nested r c = .ok v) :
    p.plainArgument policy' nested' r' c = .ok v := by
  unfold Parameter.plainArgument at decoded ⊢
  cases known : c.get? p.name with
  | some value =>
      rw [known] at decoded
      exact decoded
  | none =>
      rw [known] at decoded
      cases source : p.source with
      | direct leaf =>
          rw [source] at decoded
          have both : (r.get? p.name).isSome = (r'.get? p.name).isSome := h.fields p.name
          cases text : r.get? p.name with
          | none =>
              rw [text] at decoded both
              rw [Option.not_isSome_iff_eq_none.1 (Bool.eq_false_iff.1 both.symm)]
              exact decoded
          | some raw =>
              rw [text] at decoded both
              obtain ⟨raw', text'⟩ := Option.isSome_iff_exists.1 both.symm
              rw [text']
              exact h.texts _ leaf (mem_leaves_of_direct mem source) raw raw' text text' v decoded
      | nested target fields =>
          rw [source] at decoded
          have inner := h.restrict mem source
          have empty : (r.restrict fields).isEmpty = (r'.restrict fields).isEmpty :=
            Table.isEmpty_congr inner.fields
          simp only [empty] at decoded ⊢
          split at decoded
          · rename_i absent
            simp only [absent, ↓reduceIte]
            exact decoded
          · rename_i filled
            simp only [filled]
            exact keeps target _ _ _ v inner decoded
      | reference target =>
          rw [source] at decoded
          exact decoded

theorem plainConstruct_of_refines (h : Refines policy policy' kind r r')
    {nested nested' : PlainDecoder} (keeps : KeepsRefined policy policy' nested nested')
    {e : Entity} (decoded : (Schema.builtin kind).plainConstruct policy nested r c = .ok e) :
    (Schema.builtin kind).plainConstruct policy' nested' r' c = .ok e := by
  obtain ⟨signature, selected, a, arguments, built⟩ := plainConstruct_eq_ok.1 decoded
  refine plainConstruct_eq_ok.2 ⟨signature, ?_, a, ?_, built⟩
  · rw [← Schema.select_congr fun name _ => h.fields name]
    exact selected
  · obtain ⟨values, steps, rfl⟩ := Outcome.map_eq_ok.1 arguments
    refine Outcome.map_eq_ok.2 ⟨values, Outcome.mapM_ok_mono (fun p mem x step => ?_) steps, rfl⟩
    obtain ⟨v, value, rfl⟩ := Outcome.map_eq_ok.1 step
    refine Outcome.map_eq_ok.2 ⟨v, ?_, rfl⟩
    by_cases binds : signature.binds p.name = true
    · rw [if_pos binds] at value ⊢
      exact plainArgument_of_refines h mem keeps value
    · rw [if_neg binds] at value ⊢
      exact value

/-- **What is decoded from a record is decoded from one that refines it.** -/
theorem plainWithin_of_refines (depth : Nat) :
    KeepsRefined policy policy' (plainWithin policy depth) (plainWithin policy' depth) := by
  induction depth with
  | zero =>
      intro kind r r' c v _ decoded
      cases decoded
  | succ depth ih =>
      intro kind r r' c v h decoded
      cases known : kind.known? c with
      | some e =>
          unfold plainWithin at decoded ⊢
          rw [known] at decoded ⊢
          exact decoded
      | none =>
          obtain ⟨e, built, rfl⟩ := (plainWithin_succ_eq_ok known).1 decoded
          exact (plainWithin_succ_eq_ok known).2 ⟨e, plainConstruct_of_refines h ih built, rfl⟩

theorem plainEntity_of_refines (h : Refines policy policy' kind r r') {e : Entity}
    (decoded : plainEntity policy kind r c = .ok e) : plainEntity policy' kind r' c = .ok e := by
  unfold plainEntity at decoded ⊢
  obtain ⟨v, within, kept⟩ := Outcome.bind_eq_ok.1 decoded
  exact Outcome.bind_eq_ok.2 ⟨v, plainWithin_of_refines _ _ _ _ _ _ h within, kept⟩

/-! ## Settled records -/

/-- The text of a boolean field, or `false` in its place if it is neither blank nor one of the two
words. -/
def LeafKind.settledText (raw : String) : String :=
  if (Text.trim raw.toList).map Char.toLower ∈ [[], "true".toList, "false".toList] then raw
  else "false"

/-- Once settled, what the lenient policy reads is read by the strict one. -/
theorem LeafKind.decode_settledText (h : LeafKind.boolean.decode .lenient raw = .ok v) :
    LeafKind.boolean.decode .strict (settledText raw) = .ok v := by
  unfold settledText
  rcases decode_eq_ok_iff.1 h with blank | ⟨filled, read⟩
  · rw [if_pos (by simp [blank.1])]
    exact decode_eq_ok_iff.2 (.inl blank)
  · unfold readValue at read
    rw [readBool?_eq] at read
    split_ifs with word
    · refine decode_eq_ok_iff.2 (.inr ⟨filled, ?_⟩)
      unfold readValue
      cases strict : readBool? .strict (Text.trim raw.toList) with
      | some b =>
          rw [strict] at read
          exact read
      | none =>
          rcases List.mem_cons.1 word with blank | one
          · rw [List.map_eq_nil_iff.1 blank] at filled
            simp [acceptsBlank] at filled
          · exact absurd one (readBool?_strict_eq_none_iff.1 strict)
    · have strict : readBool? .strict (Text.trim raw.toList) = none :=
        readBool?_strict_eq_none_iff.2 fun one => word (List.mem_cons_of_mem _ one)
      rw [strict] at read
      cases read
      rfl

/-- The bindings of a table with other values. -/
def Table.mapValues {α β : Type} (f : String → α → β) (t : Table α) : Table β :=
  ⟨t.entries.map fun e => (e.1, f e.1 e.2), t.inOrder.map _ fun _ _ before => before⟩

theorem Table.get?_mapValues {α β : Type} (f : String → α → β) (t : Table α) (name : String) :
    (t.mapValues f).get? name = (t.get? name).map (f name) :=
  lookupEntry_map f name t.entries

/-- A record with its boolean texts settled. -/
def FieldRecord.settled (r : FieldRecord) (kind : EntityKind) : FieldRecord :=
  ⟨r.fields.mapValues fun name raw =>
    if (name, LeafKind.boolean) ∈ kind.leaves then LeafKind.settledText raw else raw⟩

theorem FieldRecord.get?_settled (r : FieldRecord) (kind : EntityKind) (name : String) :
    (r.settled kind).get? name = (r.get? name).map fun raw =>
      if (name, LeafKind.boolean) ∈ kind.leaves then LeafKind.settledText raw else raw :=
  Table.get?_mapValues _ r.fields name

/-- A field has one leaf kind. -/
theorem leaf_unique {field : String} {leaf leaf' : LeafKind} (h : (field, leaf) ∈ kind.leaves)
    (h' : (field, leaf') ∈ kind.leaves) : leaf = leaf' := by
  have all : ∀ kind ∈ EntityKind.all, ∀ x ∈ kind.leaves, ∀ y ∈ kind.leaves, x.1 = y.1 →
      x.2 = y.2 := by
    decide +kernel
  exact all kind kind.mem_all _ h _ h' rfl

/-- What is decoded leniently is decoded strictly from the settled record. -/
theorem refines_settled (r : FieldRecord) (kind : EntityKind) :
    Refines .lenient .strict kind r (r.settled kind) := by
  constructor
  · intro name
    show (r.get? name).isSome = ((r.settled kind).get? name).isSome
    rw [FieldRecord.get?_settled, Option.isSome_map]
  · intro field leaf known raw raw' found found' v read
    rw [FieldRecord.get?_settled, found] at found'
    cases found'
    split_ifs with boolean
    · cases leaf_unique known boolean
      exact LeafKind.decode_settledText read
    · have other : leaf ≠ .boolean := fun eq => boolean (eq ▸ known)
      rw [← read]
      exact LeafKind.decode_of_ne_boolean other

theorem refines_lenient (r : FieldRecord) (kind : EntityKind) :
    Refines .strict .lenient kind r r := by
  refine ⟨fun _ => rfl, fun field leaf _ raw raw' found found' v read => ?_⟩
  cases found.symm.trans found'
  exact LeafKind.decode_of_strict read

/-! ## Registries of both policies -/

/-- Rows need all boolean fields of their kind, and none of them belongs to an embedded entity. -/
theorem essential_of_boolean {field : String} (h : (field, LeafKind.boolean) ∈ kind.leaves) :
    field ∈ kind.essential ∧
      ∃ p ∈ (Schema.builtin kind).parameters, field ∈ p.fields ∧ p.nestedFields = [] := by
  have all : ∀ kind ∈ EntityKind.all, ∀ x ∈ kind.leaves, x.2 = .boolean →
      x.1 ∈ kind.essential ∧
        ∃ p ∈ (Schema.builtin kind).parameters, x.1 ∈ p.fields ∧ p.nestedFields = [] := by
    decide +kernel
  exact all kind kind.mem_all _ h rfl

/-- Without a boolean no entity is decoded, unless the context has it or the entity. -/
theorem plainEntity_ne_ok_of_blank {field : String}
    (known : (field, LeafKind.boolean) ∈ kind.leaves) (blank : r.IsBlank field)
    (open_ : c.get? field = none) (unknown : kind.known? c = none) (e : Entity) :
    plainEntity policy kind r c ≠ .ok e := fun decoded => by
  obtain ⟨essential, p, mem, consumes, plain⟩ := essential_of_boolean known
  have text : (field, LeafKind.text) ∉ kind.leaves := fun text => by
    cases leaf_unique known text
  exact not_lacks_of_plainConstruct essential mem consumes plain open_
    ((plainEntity_eq_ok unknown).1 decoded) (.inr ⟨text, blank⟩)

/-- **The lenient policy is a conservative extension of the strict one.**  What a strict registry
decodes a lenient one decodes to the same entity.  What a lenient registry decodes a strict one
decodes to the same entity once the boolean texts of the record are settled.  And neither decodes a
record in which a boolean is blank or absent, unless the context has the boolean or the entity. -/
theorem decodeEntity_of_policies {strict lenient : Registry} (hs : strict.IsBuiltin .strict)
    (hl : lenient.IsBuiltin .lenient) (kind : EntityKind) (r : FieldRecord) (c : Context) :
    (∀ e, (Registry.decodeEntity kind r c strict).1 = .ok e →
      (Registry.decodeEntity kind r c lenient).1 = .ok e) ∧
    (∀ e, (Registry.decodeEntity kind r c lenient).1 = .ok e →
      (Registry.decodeEntity kind (r.settled kind) c strict).1 = .ok e) ∧
    ∀ field, (field, LeafKind.boolean) ∈ kind.leaves → r.IsBlank field →
      c.contains field = false → kind.known? c = none →
        ∀ e, (Registry.decodeEntity kind r c strict).1 ≠ .ok e ∧
          (Registry.decodeEntity kind r c lenient).1 ≠ .ok e := by
  have strictly (r : FieldRecord) : (Registry.decodeEntity kind r c strict).1 = _ :=
    ComesTo.eq (yields_decodeEntity kind r c) hs
  have leniently : (Registry.decodeEntity kind r c lenient).1 = _ :=
    ComesTo.eq (yields_decodeEntity kind r c) hl
  simp only [strictly, leniently]
  refine ⟨fun e => plainEntity_of_refines (refines_lenient r kind),
    fun e => plainEntity_of_refines (refines_settled r kind), ?_⟩
  intro field known blank open_ unknown e
  have open_ := (c.contains_eq_false_iff field).1 open_
  exact ⟨plainEntity_ne_ok_of_blank known blank open_ unknown e,
    plainEntity_ne_ok_of_blank known blank open_ unknown e⟩

/-- The registry of the built-in schemas that takes malformed boolean text for `false`. -/
def lenientRegistry : Registry := .new (fun kind => some (Schema.builtin kind)) .lenient

/-- A row of a node with a text in its boolean field. -/
def slackRow (text : String) : FieldRecord := (nodeRow "0.4").insert "slack" text

/-- A node with a malformed boolean is decoded leniently, and strictly once it is settled.  With a
blank one it is not decoded. -/
theorem decodeEntity_of_policies_slack :
    (∃ e, (Registry.decodeEntity .node (slackRow "maybe") .empty lenientRegistry).1 = .ok e ∧
      (∀ e', (Registry.decodeEntity .node (slackRow "maybe") .empty strictRegistry).1 ≠ .ok e') ∧
      (Registry.decodeEntity .node ((slackRow "maybe").settled .node) .empty
        strictRegistry).1 = .ok e ∧
      (slackRow "maybe").settled .node = slackRow "false") ∧
    ∀ e, (Registry.decodeEntity .node (slackRow " ") .empty strictRegistry).1 ≠ .ok e ∧
      (Registry.decodeEntity .node (slackRow " ") .empty lenientRegistry).1 ≠ .ok e := by
  have policies := decodeEntity_of_policies isBuiltin_strictRegistry
    (Registry.isBuiltin_new .lenient) .node
  have decodes : (Registry.decodeEntity .node (slackRow "maybe") .empty
      lenientRegistry).1.toOption.any (fun _ => true) = true := by decide +kernel
  obtain ⟨e, decoded, -⟩ := Outcome.exists_of_any decodes
  refine ⟨⟨e, decoded, fun e' strict => ?_, (policies _ .empty).2.1 e decoded, ?_⟩, ?_⟩
  · have fails : (Registry.decodeEntity .node (slackRow "maybe") .empty
        strictRegistry).1.toOption.isNone = true := by decide +kernel
    rw [strict] at fails
    cases fails
  · have entries : ((slackRow "maybe").settled .node).fields.entries =
        (slackRow "false").fields.entries := by decide +kernel
    exact congrArg FieldRecord.mk (Table.ext_get? fun name => congrArg (lookupEntry name) entries)
  · refine (policies _ .empty).2.2 "slack" (by decide) (fun raw found => ?_) rfl rfl
    have text : (slackRow " ").get? "slack" = some " " := by decide
    cases text.symm.trans found
    decide

end GridRecords
