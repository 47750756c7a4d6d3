/-
# Tables by name

A table binds names to values and lists them in the order of their names, each name once.  Its
view is the lookup `get?`: inserting changes one name (`get?_insert`), and two tables with the
same lookup are the same table (`Table.ext_get?`).
-/

namespace GridRecords

/-! ## Entries in the order of their names -/

/-- Binds a name in a list of entries that is in order. -/
def insertEntry {α : Type} (name : String) (value : α) :
    List (String × α) → List (String × α)
  | [] => [(name, value)]
  | (k, v) :: rest =>
    if name < k then (name, value) :: (k, v) :: rest
    else if name = k then (name, value) :: rest
    else (k, v) :: insertEntry name value rest

/-- The value of a name in a list of entries. -/
def lookupEntry {α : Type} (name : String) : List (String × α) → Option α
  | [] => none
  | (k, v) :: rest => if name = k then some v else lookupEntry name rest

/-- Names in strictly ascending order. -/
abbrev InOrder {α : Type} (entries : List (String × α)) : Prop :=
  entries.Pairwise fun a b => a.1 < b.1

theorem fst_mem_insertEntry {α : Type} {name : String} {value : α} {entries : List (String × α)}
    {e : String × α} (h : e ∈ insertEntry name value entries) : e.1 = name ∨ e ∈ entries := by
  induction entries with
  | nil => simp only [insertEntry, List.mem_singleton] at h; exact .inl (h ▸ rfl)
  | cons b rest ih =>
    unfold insertEntry at h
    split at h
    · rcases List.mem_cons.1 h with rfl | h
      · exact .inl rfl
      · exact .inr h
    · split at h
      · rcases List.mem_cons.1 h with rfl | h
        · exact .inl rfl
        · exact .inr (List.mem_cons_of_mem _ h)
      · rcases List.mem_cons.1 h with rfl | h
        · exact .inr List.mem_cons_self
        · exact (ih h).imp_right (List.mem_cons_of_mem _)

/-- Of two names one is before the other unless they are equal. -/
theorem name_lt_of_not_lt {a b : String} (h : ¬ a < b) (ne : a ≠ b) : b < a := by
  by_cases h' : b < a
  · exact h'
  · exact absurd (String.le_antisymm (String.not_lt.1 h') (String.not_lt.1 h)) ne

/-- Inserting keeps the order. -/
theorem inOrder_insertEntry {α : Type} (name : String) (value : α) {entries : List (String × α)}
    (h : InOrder entries) : InOrder (insertEntry name value entries) := by
  induction entries with
  | nil => exact List.pairwise_singleton _ _
  | cons b rest ih =>
    have ⟨first, others⟩ := List.pairwise_cons.1 h
    unfold insertEntry
    split
    · rename_i lt
      refine List.pairwise_cons.2 ⟨fun e he => ?_, h⟩
      rcases List.mem_cons.1 he with rfl | he
      · exact lt
      · exact String.lt_trans lt (first e he)
    · split
      · rename_i _ eq
        exact List.pairwise_cons.2 ⟨fun e he => eq ▸ first e he, others⟩
      · rename_i nlt ne
        refine List.pairwise_cons.2 ⟨fun e he => ?_, ih others⟩
        rcases fst_mem_insertEntry he with eq | he
        · exact eq ▸ name_lt_of_not_lt nlt ne
        · exact first e he

theorem lookupEntry_insertEntry {α : Type} (name other : String) (value : α)
    {entries : List (String × α)} (h : InOrder entries) :
    lookupEntry other (insertEntry name value entries) =
      if other = name then some value else lookupEntry other entries := by
  induction entries with
  | nil => rfl
  | cons b rest ih =>
    have ⟨_, others⟩ := List.pairwise_cons.1 h
    unfold insertEntry
    split
    · rfl
    · split
      · rename_i eq
        simp only [lookupEntry]
        split
        · rfl
        · rename_i ne
          rw [if_neg fun e => ne (e.trans eq.symm)]
      · rename_i ne
        simp only [lookupEntry, ih others]
        split
        · rename_i eq
          rw [if_neg fun e => ne (e.symm.trans eq)]
        · rfl

/-- An entry of a list in order is what the lookup of its name finds. -/
theorem lookupEntry_eq_some_iff {α : Type} {entries : List (String × α)} (h : InOrder entries)
    {name : String} {value : α} :
    lookupEntry name entries = some value ↔ (name, value) ∈ entries := by
  induction entries with
  | nil => simp [lookupEntry]
  | cons b rest ih =>
    have ⟨first, others⟩ := List.pairwise_cons.1 h
    simp only [lookupEntry, List.mem_cons]
    split
    · rename_i eq
      constructor
      · intro e; cases e; exact .inl (Prod.ext eq rfl)
      · rintro (e | e)
        · rw [← e]
        · exact absurd (first _ e) (by rw [← eq]; exact String.lt_irrefl _)
    · rename_i ne
      rw [ih others]
      constructor
      · exact .inr
      · rintro (e | e)
        · exact absurd (congrArg Prod.fst e) ne
        · exact e

/-! ## Tables -/

/-- Names bound to values, in the order of the names. -/
structure Table (α : Type) where
  entries : List (String × α)
  inOrder : InOrder entries

namespace Table

variable {α : Type}

instance [BEq α] : BEq (Table α) := ⟨fun s t => s.entries == t.entries⟩

/-- The table without entries. -/
def empty : Table α := ⟨[], .nil⟩

/-- Binds a name, in place of what it was bound to. -/
def insert (t : Table α) (name : String) (value : α) : Table α :=
  ⟨insertEntry name value t.entries, inOrder_insertEntry name value t.inOrder⟩

/-- Binds names one after the other. -/
def insertAll (t : Table α) (entries : List (String × α)) : Table α :=
  entries.foldl (fun t (name, value) => t.insert name value) t

/-- The table of some bindings; a later one of a name replaces an earlier one. -/
def ofList (entries : List (String × α)) : Table α := empty.insertAll entries

/-- What a name is bound to. -/
def get? (t : Table α) (name : String) : Option α := lookupEntry name t.entries

/-- Whether a name is bound. -/
def contains (t : Table α) (name : String) : Bool := (t.get? name).isSome

/-- The names, in order. -/
def keys (t : Table α) : List String := t.entries.map (·.1)

/-- Number of names. -/
def size (t : Table α) : Nat := t.entries.length

/-- Whether no name is bound. -/
def isEmpty (t : Table α) : Bool := t.entries.isEmpty

/-- The bindings whose names pass a test. -/
def filter (p : String → Bool) (t : Table α) : Table α :=
  ⟨t.entries.filter fun e => p e.1, t.inOrder.filter _⟩

/-- The bindings of the names in a list. -/
def restrict (t : Table α) (names : List String) : Table α := t.filter names.contains

/-! ## Lookup -/

@[simp] theorem get?_empty (name : String) : (empty : Table α).get? name = none := rfl

/-- Inserting changes what one name is bound to. -/
theorem get?_insert (t : Table α) (name other : String) (value : α) :
    (t.insert name value).get? other = if other = name then some value else t.get? other :=
  lookupEntry_insertEntry name other value t.inOrder

/-- The entries are what the lookup finds. -/
theorem get?_eq_some_iff (t : Table α) {name : String} {value : α} :
    t.get? name = some value ↔ (name, value) ∈ t.entries :=
  lookupEntry_eq_some_iff t.inOrder

/-- Keeping some names changes nothing about them and unbinds the others. -/
theorem get?_filter (p : String → Bool) (t : Table α) (name : String) :
    (t.filter p).get? name = if p name then t.get? name else none := by
  apply Option.ext
  intro value
  rw [get?_eq_some_iff]
  simp only [filter, List.mem_filter]
  split
  · rename_i h; rw [get?_eq_some_iff]; simp [h]
  · rename_i h; simp [h]

/-- Two lists in order with the same members are equal. -/
theorem eq_of_inOrder {s t : List (String × α)} (hs : InOrder s) (ht : InOrder t)
    (h : ∀ e, e ∈ s ↔ e ∈ t) : s = t := by
  induction s generalizing t with
  | nil =>
    cases t with
    | nil => rfl
    | cons b r => exact absurd ((h b).2 List.mem_cons_self) List.not_mem_nil
  | cons a s ih =>
    cases t with
    | nil => exact absurd ((h a).1 List.mem_cons_self) List.not_mem_nil
    | cons b t =>
      have ⟨ha, orderS⟩ := List.pairwise_cons.1 hs
      have ⟨hb, orderT⟩ := List.pairwise_cons.1 ht
      have hab : a = b := by
        rcases List.mem_cons.1 ((h a).1 List.mem_cons_self) with e | e
        · exact e
        · rcases List.mem_cons.1 ((h b).2 List.mem_cons_self) with e' | e'
          · exact e'.symm
          · exact absurd (String.lt_trans (ha b e') (hb a e)) (String.lt_irrefl _)
      subst hab
      refine congrArg _ (ih orderS orderT fun e => ⟨fun m => ?_, fun m => ?_⟩)
      · rcases List.mem_cons.1 ((h e).1 (List.mem_cons_of_mem _ m)) with rfl | m'
        · exact absurd (ha _ m) (String.lt_irrefl _)
        · exact m'
      · rcases List.mem_cons.1 ((h e).2 (List.mem_cons_of_mem _ m)) with rfl | m'
        · exact absurd (hb _ m) (String.lt_irrefl _)
        · exact m'

/-- Tables with the same lookup are equal. -/
theorem ext_get? {s t : Table α} (h : ∀ name, s.get? name = t.get? name) : s = t := by
  have same : s.entries = t.entries := by
    apply eq_of_inOrder s.inOrder t.inOrder
    rintro ⟨name, value⟩
    rw [← get?_eq_some_iff, ← get?_eq_some_iff, h]
  cases s; cases t; cases same; rfl

end Table

end GridRecords
