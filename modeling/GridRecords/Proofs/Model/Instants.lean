/-
# Series by their instants

Comparing timestamps comes to comparing their instants (`Timestamp.isBefore_iff`), where the
offset that a timestamp is written under does not show.  The entries of a series are in that order,
and those of one instant stand as they were given (`TimeSeries.filter_entries`).

Looking up an instant halves a range of places.  All entries before the range are earlier and all
behind it are later (`TimeSeries.Encloses`), so where the range closes without an entry there is
none (`TimeSeries.search_eq_none`).
-/
import GridRecords.Proofs.Model.Series
import Mathlib.Data.Prod.Lex

namespace GridRecords

/-! ## Instants -/

namespace Timestamp

variable {s t : Timestamp}

/-- The instant of a timestamp: the seconds first, then what follows them. -/
def instant (t : Timestamp) : ℤ ×ₗ ℕ := toLex (t.seconds, t.nanos)

theorem isBefore_iff : s.isBefore t = true ↔ s.instant < t.instant := by
  simp [isBefore, instant, Prod.Lex.toLex_lt_toLex]

theorem isAtMost_iff_instant : s.isAtMost t = true ↔ s.instant ≤ t.instant := by
  rw [isAtMost, Bool.not_eq_true', ← Bool.not_eq_true, isBefore_iff, not_lt]

end Timestamp

namespace TimeSeries

variable {uuid : Uuid} {given : List TimeBasedValue} {s : TimeSeries} {t : Timestamp}

/-! ## Order -/

theorem pairwise_instants (h : checked uuid given = .ok s) :
    s.entries.Pairwise fun a b => a.time.instant ≤ b.time.instant :=
  (pairwise_entries h).imp Timestamp.isAtMost_iff_instant.1

/-- **Entries of one instant stand in the order in which they were given.** -/
theorem filter_entries (h : checked uuid given = .ok s) (x : ℤ ×ₗ ℕ) :
    s.entries.filter (·.time.instant = x) = given.filter (·.time.instant = x) := by
  have ordered : (given.filter (·.time.instant = x)).Pairwise fun a b =>
      a.time.isAtMost b.time = true := by
    have same {v : TimeBasedValue} (mem : v ∈ given.filter (·.time.instant = x)) :
        v.time.instant = x := by
      simpa using List.of_mem_filter mem
    refine List.pairwise_iff_getElem.2 fun i j hi hj _ => Timestamp.isAtMost_iff_instant.2 ?_
    exact ((same (List.getElem_mem hi)).trans (same (List.getElem_mem hj)).symm).le
  have among := (sublist_entries h ordered List.filter_sublist).filter (·.time.instant = x)
  rw [List.filter_filter] at among
  simp only [Bool.and_self] at among
  -- as many entries have the instant before and after sorting
  exact (among.eq_of_length ((perm_entries h).symm.filter _).length_eq).symm

/-- Values of two families are refused, and nothing else is. -/
theorem exists_error_checked_iff : (∃ v, checked uuid given = .error v) ↔
    ∃ v ∈ given, ∃ w ∈ given, v.family ≠ w.family := by
  cases made : checked uuid given with
  | ok s =>
      have same := (checked_eq_ok_iff.1 made).1
      simp only [reduceCtorEq, exists_false, false_iff, not_exists, not_and, not_not]
      exact same
  | error f =>
      refine iff_of_true ⟨f, rfl⟩ ?_
      by_contra none
      push Not at none
      rw [checked_eq_ok_iff.2 ⟨none, rfl⟩] at made
      cases made

/-! ## Looking up -/

/-- A range of places that encloses an instant: the entries before it are earlier, those behind it
are later. -/
structure Encloses (entries : Array TimeBasedValue) (t : Timestamp) (lo hi : ℕ) : Prop where
  inside : hi ≤ entries.size
  before : ∀ i (h : i < entries.size), i < lo → entries[i].time.instant < t.instant
  behind : ∀ i (h : i < entries.size), hi ≤ i → t.instant < entries[i].time.instant

variable {entries : Array TimeBasedValue} {lo hi : ℕ}

/-- The range of all places encloses every instant. -/
theorem encloses_all (entries : Array TimeBasedValue) (t : Timestamp) :
    Encloses entries t 0 entries.size where
  inside := le_rfl
  before _ _ none := absurd none (Nat.not_lt_zero _)
  behind _ h beyond := absurd h (Nat.not_lt.2 beyond)

/-- An instant that an empty range encloses is that of no entry. -/
theorem Encloses.instant_ne (encloses : Encloses entries t lo hi) (closed : ¬lo < hi)
    {e : TimeBasedValue} (mem : e ∈ entries) : e.time.instant ≠ t.instant := by
  obtain ⟨i, h, rfl⟩ := Array.getElem_of_mem mem
  by_cases early : i < lo
  · exact (encloses.before i h early).ne
  · exact (encloses.behind i h (by omega)).ne'

section

variable (ordered : entries.toList.Pairwise fun a b => a.time.instant ≤ b.time.instant)
include ordered

theorem instant_le_of_le {i j : ℕ} (le : i ≤ j) (h : j < entries.size) :
    entries[i].time.instant ≤ entries[j].time.instant := by
  rcases le.eq_or_lt with rfl | lt
  · exact le_rfl
  · exact List.pairwise_iff_getElem.1 ordered i j (by simpa using le.trans_lt h) (by simpa) lt

/-- Behind an entry that is earlier the range still encloses the instant. -/
theorem Encloses.later (encloses : Encloses entries t lo hi) {middle : ℕ}
    (h : middle < entries.size) (early : entries[middle].time.instant < t.instant) :
    Encloses entries t (middle + 1) hi where
  inside := encloses.inside
  before _ _ lt := (instant_le_of_le ordered (Nat.le_of_lt_succ lt) h).trans_lt early
  behind := encloses.behind

/-- Before an entry that is later the range still encloses the instant. -/
theorem Encloses.earlier (encloses : Encloses entries t lo hi) {middle : ℕ}
    (h : middle < entries.size) (late : t.instant < entries[middle].time.instant) :
    Encloses entries t lo middle where
  inside := h.le
  before := encloses.before
  behind _ h' le := late.trans_le (instant_le_of_le ordered le h')

/-- **A range in which nothing is found holds no entry of the instant**, nor is there one outside
of it. -/
theorem search_eq_none (encloses : Encloses entries t lo hi)
    (none : search entries t lo hi = none) :
    ∀ e ∈ entries, e.time.instant ≠ t.instant := by
  induction lo, hi using search.induct entries t with
  | case1 lo hi open_ middle outside =>
      have inside : middle < entries.size := by
        have := encloses.inside
        omega
      rw [Array.getElem?_eq_getElem inside] at outside
      cases outside
  | case2 lo hi open_ middle e found early ih =>
      obtain ⟨inside, rfl⟩ := Array.getElem?_eq_some_iff.1 found
      refine ih (encloses.later ordered inside (Timestamp.isBefore_iff.1 early)) ?_
      rw [search] at none
      simpa only [open_, middle, found, early, if_true] using none
  | case3 lo hi open_ middle e found early late ih =>
      obtain ⟨inside, rfl⟩ := Array.getElem?_eq_some_iff.1 found
      refine ih (encloses.earlier ordered inside (Timestamp.isBefore_iff.1 late)) ?_
      rw [search] at none
      simpa only [open_, middle, found, early, late, if_true, Bool.false_eq_true,
        if_false] using none
  | case4 lo hi open_ middle e found early late =>
      rw [search] at none
      simp only [open_, middle, found, early, late, if_true, Bool.false_eq_true,
        if_false] at none
      cases none
  | case5 lo hi closed => exact fun e => encloses.instant_ne closed

end

/-- What is found is an entry of the instant. -/
theorem search_eq_some {e : TimeBasedValue} (h : search entries t lo hi = some e) :
    e ∈ entries ∧ e.time.instant = t.instant := by
  fun_induction search entries t lo hi with
  | case1 | case5 => cases h
  | case2 lo hi open_ middle e' found early ih => exact ih h
  | case3 lo hi open_ middle e' found early late ih => exact ih h
  | case4 lo hi open_ middle e' found early late =>
      cases h
      rw [Timestamp.isBefore_iff] at early late
      exact ⟨Array.mem_of_getElem? found, le_antisymm (not_lt.1 late) (not_lt.1 early)⟩

/-- **An instant is looked up exactly.**  In a series something is found for the instants of its
entries and for no others, and it is the payload of an entry of that instant. -/
theorem payloadAt?_cases (h : checked uuid given = .ok s) (t : Timestamp) :
    (s.payloadAt? t = none ↔ ∀ e ∈ s.entries, e.time.instant ≠ t.instant) ∧
      ∀ payload, s.payloadAt? t = some payload →
        ∃ e ∈ s.entries, e.time.instant = t.instant ∧ e.payload = payload := by
  have whole : Encloses s.entries.toArray t 0 s.entries.length := by
    simpa using encloses_all s.entries.toArray t
  have found {e : TimeBasedValue} (here : s.entryAt? t = some e) :
      e ∈ s.entries ∧ e.time.instant = t.instant := by
    simpa using search_eq_some here
  unfold payloadAt?
  constructor
  · rw [Option.map_eq_none_iff]
    constructor
    · intro none
      simpa using search_eq_none (by simpa using pairwise_instants h) whole none
    · intro others
      by_contra some'
      obtain ⟨e, here⟩ := Option.ne_none_iff_exists'.1 some'
      exact others e (found here).1 (found here).2
  · intro payload here
    obtain ⟨e, there, rfl⟩ := Option.map_eq_some_iff.1 here
    exact ⟨e, (found there).1, (found there).2, rfl⟩

/-- **A series is in the order of its instants and is looked up by them.**  Values make a series
unless two of them are of different families.  Its entries are those values in the order of their
instants, those of one instant in the order given, and looking up a timestamp of any offset finds
nothing exactly where no entry has its instant, and else what such an entry holds. -/
theorem ordered_and_looked_up (uuid : Uuid) (given : List TimeBasedValue) :
    ((∃ v, checked uuid given = .error v) ↔
      ∃ v ∈ given, ∃ w ∈ given, v.family ≠ w.family) ∧
    ∀ s, checked uuid given = .ok s →
      s.uuid = uuid ∧ s.entries.Perm given ∧
      (s.entries.Pairwise fun a b => a.time.instant ≤ b.time.instant) ∧
      (∀ x, s.entries.filter (·.time.instant = x) = given.filter (·.time.instant = x)) ∧
      ∀ t : Timestamp,
        (s.payloadAt? t = none ↔ ∀ e ∈ s.entries, e.time.instant ≠ t.instant) ∧
        ∀ payload, s.payloadAt? t = some payload →
          ∃ e ∈ s.entries, e.time.instant = t.instant ∧ e.payload = payload := by
  refine ⟨exists_error_checked_iff, fun s made => ⟨?_, perm_entries made, pairwise_instants made,
    filter_entries made, payloadAt?_cases made⟩⟩
  obtain ⟨-, rfl⟩ := checked_eq_ok_iff.1 made
  rfl

/-- A price at an instant, written under an offset. -/
def priceAt (uuid : Uuid) (seconds offset : ℤ) (price : Float) : TimeBasedValue :=
  ⟨uuid, ⟨seconds, 0, offset⟩, .energyPrice ⟨price, .euroPerMegawattHour⟩⟩

/-- Two prices of one instant under different offsets, and one of the hour before. -/
def spotPrices : List TimeBasedValue :=
  [priceAt ⟨0x3d2a1b4c000540008000000000000007#128⟩ 3600 7200 42.0,
    priceAt ⟨0x3d2a1b4c000540008000000000000008#128⟩ 0 0 40.0,
    priceAt ⟨0x3d2a1b4c000540008000000000000009#128⟩ 3600 (-3600) 41.0]

/-- The instant that two prices share is found under a third offset, and no other hour is. -/
theorem ordered_and_looked_up_spotPrices :
    ∃ s, checked ⟨0x3d2a1b4c00054000800000000000000a#128⟩ spotPrices = .ok s ∧
      s.entries.filter (·.time.instant = toLex (3600, 0)) = [spotPrices[0], spotPrices[2]] ∧
      s.payloadAt? ⟨3600, 0, 19800⟩ ≠ none ∧ s.payloadAt? ⟨7200, 0, 3600⟩ = none := by
  have made : checked ⟨0x3d2a1b4c00054000800000000000000a#128⟩ spotPrices = .ok
      ⟨⟨0x3d2a1b4c00054000800000000000000a#128⟩,
        spotPrices.mergeSort fun a b => a.time.isAtMost b.time⟩ := by
    refine checked_eq_ok_iff.2 ⟨?_, rfl⟩
    simp [spotPrices, priceAt, TimeBasedValue.family, Payload.family]
  obtain ⟨-, perm, -, together, looked⟩ := (ordered_and_looked_up _ spotPrices).2 _ made
  refine ⟨_, made, ?_, ?_, ?_⟩
  · rw [together]
    rfl
  · intro none
    exact (looked _).1.1 none spotPrices[0] (perm.mem_iff.2 (by simp [spotPrices])) rfl
  · refine (looked _).1.2 fun e mem => ?_
    have given := perm.mem_iff.1 mem
    simp only [spotPrices, priceAt, List.mem_cons, List.not_mem_nil, or_false] at given
    rcases given with rfl | rfl | rfl <;> decide

end TimeSeries

end GridRecords
