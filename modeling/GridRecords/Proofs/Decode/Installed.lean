/-
# Strategies that stay installed

A registry only grows.  Whatever it is asked for and whatever is registered in it, the strategies
that it holds stay where they are (`Call.prefix_run`), so a strategy that was once installed for a
target is the one that is resolved from then on, and a later one for the same target is refused.

What is registered may change how other targets are decoded.  Where nothing is registered, a
registry decodes as it did when it was new (`Registry.installed_after`).
-/
import GridRecords.Proofs.Batch.PreparedRows

namespace GridRecords.Registry

/-! ## Installing -/

/-- Installing moves nothing. -/
theorem prefix_install (r : Registry) (target : Target) (strategy : Strategy) :
    r.entries <+: (r.install target strategy).entries := by
  unfold install
  split
  · exact List.prefix_rfl
  · exact List.prefix_append _ _

theorem install_of_find? {r : Registry} {target : Target} {strategy : Strategy}
    (h : r.find? target = some strategy) (other : Strategy) : r.install target other = r := by
  unfold install isRegistered
  rw [h]
  rfl

/-- A target without a strategy is not among the targets of a registry. -/
theorem notMem_of_find? {r : Registry} {target : Target} (h : r.find? target = none) :
    target ∉ r.entries.map Prod.fst := by
  intro mem
  obtain ⟨⟨_, strategy⟩, entry, rfl⟩ := List.mem_map.1 mem
  have other := List.lookup_eq_none_iff.1 h _ entry
  simp at other

/-- Installing gives no target a second strategy. -/
theorem nodup_install {r : Registry} (h : (r.entries.map Prod.fst).Nodup) (target : Target)
    (strategy : Strategy) : ((r.install target strategy).entries.map Prod.fst).Nodup := by
  cases found : r.find? target with
  | some old =>
      rw [install_of_find? found]
      exact h
  | none =>
      have more : (r.install target strategy).entries = r.entries ++ [(target, strategy)] := by
        unfold install isRegistered
        rw [found]
        rfl
      rw [more, List.map_append, List.nodup_append']
      refine ⟨h, List.nodup_singleton _, ?_⟩
      rw [List.disjoint_right]
      intro t mem
      rw [List.mem_singleton.1 mem]
      exact notMem_of_find? found

/-- An installed strategy is found in every registry that goes on with the same entries, at the same
place. -/
theorem find?_of_grown {r after : Registry} (grown : r.entries <+: after.entries)
    {target : Target} {strategy : Strategy} (h : r.find? target = some strategy) :
    after.find? target = some strategy ∧ after.place? target = r.place? target := by
  obtain ⟨more, entries⟩ := grown
  unfold find? at h
  constructor
  · unfold find?
    rw [← entries, List.lookup_append, h]
    rfl
  · unfold place?
    rw [← entries, List.findIdx?_append]
    cases place : r.entries.findIdx? fun entry => entry.1 == target with
    | some n => rfl
    | none =>
        -- no entry stands for the target, although it has a strategy
        obtain ⟨entry, mem, same⟩ := List.lookup_isSome_iff.1 (Option.isSome_of_eq_some h)
        have other := List.findIdx?_eq_none_iff.1 place entry mem
        rw [← eq_of_beq same] at other
        simp at other

/-! ## Asking and registering -/

/-- Asking for a strategy installs none but one for the target. -/
theorem resolve_cases (target : Target) (r : Registry) :
    (resolve target r).2 = r ∨
      ∃ strategy, (resolve target r).2 = r.install target strategy := by
  cases found : r.find? target with
  | some strategy =>
      left
      rw [resolve_of_find? found]
  | none =>
      cases derived : r.derive? target with
      | some strategy =>
          right
          rw [resolve_of_derive? found derived]
          exact ⟨strategy, rfl⟩
      | none =>
          left
          rw [resolve_of_missing found derived]

/-- The strategy that is given is installed from then on. -/
theorem find?_of_resolve {r : Registry} {target : Target} {strategy : Strategy}
    (h : (resolve target r).1 = .ok strategy) :
    (resolve target r).2.find? target = some strategy := by
  cases found : r.find? target with
  | some installed =>
      rw [resolve_of_find? found] at h ⊢
      cases h
      exact found
  | none =>
      cases derived : r.derive? target with
      | some given =>
          rw [resolve_of_derive? found derived] at h ⊢
          cases h
          rw [find?_install r target target strategy found, found, if_pos rfl]
          rfl
      | none =>
          rw [resolve_of_missing found derived] at h
          cases h

theorem register_of_find? {r : Registry} {s strategy : Strategy}
    (h : r.find? s.target = some strategy) : (register s).run r = (strategy, r) := by
  have kept : (register s).run r =
      (((r.install s.target s).find? s.target).getD s, r.install s.target s) := rfl
  rw [kept, install_of_find? h, h]
  rfl

theorem register_of_fresh {r : Registry} {s : Strategy} (h : r.find? s.target = none) :
    (register s).run r = (s, r.install s.target s) := by
  have kept : (register s).run r =
      (((r.install s.target s).find? s.target).getD s, r.install s.target s) := rfl
  rw [kept, find?_install r s.target s.target s h, h, if_pos rfl]
  rfl

/-- Registering gives the strategy that is installed from then on. -/
theorem find?_register (s : Strategy) (r : Registry) :
    ((register s).run r).2.find? s.target = some ((register s).run r).1 := by
  cases found : r.find? s.target with
  | some strategy =>
      rw [register_of_find? found]
      exact found
  | none =>
      rw [register_of_fresh found, find?_install r s.target s.target s found, found, if_pos rfl]
      rfl

/-! ## Histories -/

/-- A registry goes on with the entries of an earlier one, and gives no target two strategies if the
earlier one did not. -/
structure Grows (before r : Registry) : Prop where
  installed : before.entries <+: r.entries
  distinct : (before.entries.map Prod.fst).Nodup → (r.entries.map Prod.fst).Nodup

theorem Grows.refl (r : Registry) : r.Grows r := ⟨List.prefix_rfl, id⟩

theorem Grows.trans {a b c : Registry} (h : a.Grows b) (h' : b.Grows c) : a.Grows c :=
  ⟨h.installed.trans h'.installed, h'.distinct ∘ h.distinct⟩

theorem grows_install (r : Registry) (target : Target) (strategy : Strategy) :
    r.Grows (r.install target strategy) :=
  ⟨prefix_install r target strategy, fun h => nodup_install h target strategy⟩

/-- Being asked for strategies, a registry grows and goes on to decode by the same ones. -/
theorem answers_grows (before : Registry) :
    Answers before.strategy? fun r => r.DecodesBy before.strategy? ∧ before.Grows r := by
  intro target r ⟨decodes, grows⟩
  obtain ⟨after, run, kept⟩ := answers_decodesBy before.strategy? target r decodes
  refine ⟨after, run, kept, ?_⟩
  have behind : (resolve target r).2 = after := congrArg Prod.snd run
  rw [← behind]
  obtain same | ⟨strategy, more⟩ := resolve_cases target r
  · rw [same]
    exact grows
  · rw [more]
    exact grows.trans (grows_install r target strategy)

/-- What can be done with a registry. -/
inductive Call where
  | use (u : Use)
  | register (strategy : Strategy)

/-- A registry after one call. -/
def Call.run : Call → Registry → Registry
  | .use u, r => u.run r
  | .register strategy, r => ((Registry.register strategy).run r).2

/-- A registry after some calls, one after the other. -/
def afterCalls (r : Registry) (calls : List Call) : Registry :=
  calls.foldl (fun r call => call.run r) r

theorem afterCalls_append (r : Registry) (calls more : List Call) :
    r.afterCalls (calls ++ more) = (r.afterCalls calls).afterCalls more :=
  List.foldl_append

/-- **Every call lets a registry grow.** -/
theorem Call.grows (call : Call) (r : Registry) : r.Grows (call.run r) := by
  cases call with
  | use u => exact (u.keeps (answers_grows r) ⟨r.decodesBy_strategy?, Grows.refl r⟩).2
  | register strategy => exact grows_install r strategy.target strategy

theorem grows_afterCalls (r : Registry) (calls : List Call) : r.Grows (r.afterCalls calls) := by
  induction calls generalizing r with
  | nil => exact Grows.refl r
  | cons call rest ih => exact (call.grows r).trans (ih (call.run r))

variable {schemas : EntityKind → Option Schema} {policy : BooleanPolicy}

theorem nodup_new : ((Registry.new schemas policy).entries.map Prod.fst).Nodup := by
  have targets : (Registry.new schemas policy).entries.map Prod.fst =
      LeafKind.all.map Target.leaf := by
    unfold new
    rw [List.map_map]
    rfl
  rw [targets]
  exact List.Nodup.map (fun _ _ => Target.leaf.inj) (by decide)

/-- Where nothing is registered, a registry decodes as it did. -/
theorem decodesBy_afterCalls {strategies : Target → Option Strategy} {r : Registry}
    (hr : r.DecodesBy strategies) {calls : List Call} (h : ∀ s, .register s ∉ calls) :
    (r.afterCalls calls).DecodesBy strategies := by
  induction calls generalizing r with
  | nil => exact hr
  | cons call rest ih =>
      have others : ∀ s, .register s ∉ rest := fun s mem => h s (List.mem_cons_of_mem call mem)
      cases call with
      | use u => exact ih (u.decodesBy_run hr) others
      | register s => exact absurd List.mem_cons_self (h s)

/-- **Strategies stay installed, and where nothing is registered it does not show that they are.**
Whatever a registry is used for, including what fails, and whatever is registered in it, it grows at
its end and no target gets a second entry.  A strategy that is installed for a target, as is any
that was given for it, is the one that is given for the target from then on.  A field is read by the
policy that the registry was made with.  As long as nothing was registered, records and fields are
decoded to what a new registry decodes them to. -/
theorem installed_after (schemas : EntityKind → Option Schema) (policy : BooleanPolicy)
    (earlier later : List Call) :
    let new := Registry.new schemas policy
    let before := new.afterCalls earlier
    let now := new.afterCalls (earlier ++ later)
    (before.entries <+: now.entries ∧ (now.entries.map Prod.fst).Nodup) ∧
    (∀ target strategy, before.find? target = some strategy →
      now.find? target = some strategy ∧ now.place? target = before.place? target ∧
      resolve target now = (.ok strategy, now) ∧
      ∀ s, s.target = target → (Registry.register s).run now = (strategy, now)) ∧
    (∀ target strategy, (resolve target before).1 = .ok strategy →
      (resolve target before).2.find? target = some strategy) ∧
    (∀ s, ((Registry.register s).run before).2.find? s.target =
      some ((Registry.register s).run before).1) ∧
    (∀ kind, now.find? (.leaf kind) = some (.leaf kind policy)) ∧
    ((∀ s, .register s ∉ earlier) →
      (∀ target r c, (decode target r c before).1 = (decode target r c new).1) ∧
      (∀ kind r c, (decodeEntity kind r c before).1 = (decodeEntity kind r c new).1) ∧
      ∀ kind raw, (decodeField kind raw before).1 = (decodeField kind raw new).1) := by
  intro new before now
  have grown : before.Grows now := by
    show before.Grows (new.afterCalls (earlier ++ later))
    rw [afterCalls_append]
    exact grows_afterCalls before later
  have all : new.Grows now := grows_afterCalls new _
  refine ⟨⟨grown.installed, all.distinct nodup_new⟩, ?_, ?_, ?_, ?_, ?_⟩
  · intro target strategy installed
    obtain ⟨kept, place⟩ := find?_of_grown grown.installed installed
    refine ⟨kept, place, resolve_of_find? kept, ?_⟩
    rintro s rfl
    exact register_of_find? kept
  · intro target strategy given
    exact find?_of_resolve given
  · intro s
    exact find?_register s before
  · intro kind
    exact (find?_of_grown all.installed (find?_leaf_new kind)).1
  · intro unregistered
    have start : new.DecodesBy (schemaStrategies schemas policy) := decodesBy_new
    have hr := decodesBy_afterCalls start unregistered
    have asks := answers_decodesBy (schemaStrategies schemas policy)
    exact ⟨fun target r c => ((asks.settles_decode target r c).comesTo start).eq hr,
      fun kind r c => ((asks.settles_decodeEntity kind r c).comesTo start).eq hr,
      fun kind raw => ((asks.settles_decodeField kind raw).comesTo start).eq hr⟩

/-- A registry that knows the schema of nodes only: nodes are asked for, lines fail to be prepared,
and then other strategies are registered for nodes and for boolean fields, which are refused. -/
theorem installed_after_nodes :
    let schemas := fun kind => if kind = .node then some (Schema.builtin .node) else none
    let earlier : List Call := [.use (.resolve (.entity .node)), .use (.prepare [.line])]
    let later : List Call := [.register (.composite { Schema.builtin .node with parameters := [] }),
      .register (.leaf .boolean .lenient)]
    let before := (Registry.new schemas .strict).afterCalls earlier
    let now := (Registry.new schemas .strict).afterCalls (earlier ++ later)
    (prepare [.line] before).1 = .error (.missingStrategy "LineInput") ∧
    resolve (.entity .node) now = (.ok (.composite (Schema.builtin .node)), now) ∧
    (Registry.register (.leaf .boolean .lenient)).run now = (.leaf .boolean .strict, now) ∧
    (decodeField .boolean "yes" before).1 =
      (decodeField .boolean "yes" (Registry.new schemas .strict)).1 := by
  intro schemas earlier later before now
  obtain ⟨-, stays, -, -, -, same⟩ := installed_after schemas .strict earlier later
  have start : (Registry.new schemas .strict).DecodesBy (schemaStrategies schemas .strict) :=
    decodesBy_new
  have unregistered : ∀ s, Call.register s ∉ earlier := by
    intro s mem
    simp [earlier] at mem
  have missing : (prepare [.line]).ComesTo (DecodesBy (schemaStrategies schemas .strict))
      (.error (.missingStrategy "LineInput")) := by
    have asked : (resolve (.entity .line)).ComesTo (DecodesBy (schemaStrategies schemas .strict))
        (.error (.missingStrategy "LineInput")) := answers_decodesBy _ _
    show (prepareFrom EntityKind.all [.line]).ComesTo _ _
    rw [prepareFrom, dif_pos (by decide)]
    exact (asked.bind_error _).bind_error _
  have installed : before.find? (.entity .node) = some (.composite (Schema.builtin .node)) := by
    have given : (resolve (.entity .node) (Registry.new schemas .strict)).1 =
        .ok (.composite (Schema.builtin .node)) := by
      rw [resolve_of_derive? (find?_entity_new .node) (by rfl)]
    exact (find?_of_grown (grows_afterCalls _ [.use (.prepare [.line])]).installed
      (find?_of_resolve given)).1
  have boolean : before.find? (.leaf .boolean) = some (.leaf .boolean .strict) :=
    (find?_of_grown (grows_afterCalls _ earlier).installed (find?_leaf_new .boolean)).1
  refine ⟨missing.eq (decodesBy_afterCalls start unregistered), ?_, ?_, ?_⟩
  · exact (stays _ _ installed).2.2.1
  · exact (stays _ _ boolean).2.2.2 _ rfl
  · exact (same unregistered).2.2 .boolean "yes"

end GridRecords.Registry
