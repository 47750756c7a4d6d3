/-
# The rows of a series

The row of a value in a series is its own row with the uuid of the series beside it
(`TimeBasedValue.exists_flattenIn`).  Its columns are in the order in which the family declares
them, `uuid` first and the others by name (`RecordFamily.header_eq`).
-/
import GridRecords.Proofs.Row.Units
import Mathlib.Data.List.Sort

namespace GridRecords

/-! ## Headers -/

theorem pairwise_sortedNames (names : List String) : (sortedNames names).Pairwise (· < ·) := by
  unfold sortedNames Table.keys
  exact List.pairwise_map.2 (Table.ofList _).inOrder

/-- Sorting names without repetition brings them into order. -/
theorem mergeSort_eq_sortedNames {names : List String} (nodup : names.Nodup) :
    names.mergeSort = sortedNames names := by
  have sorted : (names.mergeSort).Pairwise (· ≤ ·) := by
    refine (List.pairwise_mergeSort ?_ ?_ names).imp of_decide_eq_true
    · intro a b c ab bc
      exact decide_eq_true (String.le_trans (of_decide_eq_true ab) (of_decide_eq_true bc))
    · intro a b
      simpa using String.le_total a b
  have ordered : (sortedNames names).Pairwise (· ≤ ·) :=
    (pairwise_sortedNames names).imp fun lt =>
      String.not_lt.1 fun gt => String.lt_irrefl _ (String.lt_trans lt gt)
  have nodup' : (sortedNames names).Nodup := (pairwise_sortedNames names).nodup
  have same : names.mergeSort.Perm (sortedNames names) :=
    (List.mergeSort_perm names _).trans
      ((List.perm_ext_iff_of_nodup nodup nodup').2 fun _ => mem_sortedNames.symm)
  exact same.eq_of_pairwise (fun _ _ _ _ => String.le_antisymm) sorted ordered

/-- The columns of a family are those of its values and the one for the series, `uuid` first. -/
theorem RecordFamily.header_eq (family : RecordFamily) :
    family.header true =
      "uuid" :: (sortedNames ("series" :: family.columnNames)).filter (· != "uuid") := by
  have all : ∀ family ∈ RecordFamily.all,
      (((family.partition true).flatMap (·.2)).filter (· != "uuid")).Nodup ∧
        sortedNames ((family.partition true).flatMap (·.2)) =
          sortedNames ("series" :: family.columnNames) := by
    decide
  obtain ⟨nodup, same⟩ := all family family.mem_all
  have columns : family.header true = "uuid" ::
      (((family.partition true).flatMap (·.2)).filter (· != "uuid")).mergeSort := rfl
  rw [columns, mergeSort_eq_sortedNames nodup, ← filter_sortedNames, same]

/-! ## Tables of texts -/

theorem Table.keys_ofList {α : Type} (entries : List (String × α)) :
    (Table.ofList entries).keys = sortedNames (entries.map Prod.fst) := by
  have bound (name : String) : (Table.ofList entries).contains name = true ↔
      name ∈ entries.map Prod.fst := by
    unfold Table.contains Table.ofList
    rw [Table.get?_insertAll, Table.get?_empty, Option.or_none, ← not_iff_not,
      Bool.not_eq_true, Option.isSome_eq_false_iff, Option.isNone_iff_eq_none,
      lookupEntry_eq_none_iff, List.map_reverse, List.mem_reverse]
  unfold sortedNames
  refine Table.keys_congr fun name => Bool.eq_iff_iff.2 ?_
  rw [bound, Table.contains_iff]
  exact mem_sortedNames.symm

/-- The columns of a row are the names of its table, the leading one first if it is there. -/
theorem FlatRecord.header_ofTable (t : Table String) :
    (ofTable t).header =
      (if t.contains leading then [leading] else []) ++ t.keys.filter (· != leading) := by
  unfold header ofTable Table.contains
  rw [List.map_append, ← Table.keys_filter]
  cases t.get? leading <;> rfl

/-! ## Rows with their series -/

namespace TimeBasedValue

variable {v : TimeBasedValue}

/-- The table of a row is looked up in both of its forms. -/
theorem get?_ofTexts (texts : List (String × String)) (nodup : (texts.map Prod.fst).Nodup)
    (lower : ∀ name ∈ texts.map Prod.fst, Text.lowercase name = name) (name : String) :
    (FlatRecord.ofTable (.ofList texts)).get? name = lookupEntry name texts ∧
      (FlatRecord.ofTable (.ofList texts)).toRecord.get? name = lookupEntry name texts := by
  have bound := Table.get?_ofList nodup name
  constructor
  · exact (FlatRecord.lookupEntry_ofTable _ name).trans bound
  · refine (FlatRecord.get?_toRecord ?_ name).trans bound
    intro other mem
    rw [Table.keys_ofList, mem_sortedNames] at mem
    exact lower other mem

/-- **A value whose own row can be written has a row in every series.**  That row has the columns
that the family declares, the uuid of the series among them, and otherwise the texts of the value's
own row. -/
theorem exists_flattenIn {own : FlatRecord} (h : v.flatten = .ok own) (series : Uuid) :
    ∃ row, v.flattenIn (some series) = .ok row ∧ row.header = v.family.header true ∧
      row.get? "series" = some series.text ∧
      ∀ name, name ≠ "series" → row.toRecord.get? name = own.toRecord.get? name := by
  obtain ⟨texts, writes, rfl⟩ := flattenIn_eq_ok_iff.1 h
  have writes : (Entity.cells (.timeBasedValue v)).mapM Cell.write = .ok texts := writes
  have names := Entity.map_fst_texts writes
  have names' : (("series", series.text) :: texts).map Prod.fst =
      "series" :: Entity.columnNames (.timeBasedValue v) := by
    rw [List.map_cons, names]
  have nodup : ("series" :: Entity.columnNames (.timeBasedValue v)).Nodup :=
    v.nodup_seriesNames (some series)
  have lower : ∀ name ∈ "series" :: Entity.columnNames (.timeBasedValue v),
      Text.lowercase name = name := by
    intro name mem
    rcases List.mem_cons.1 mem with rfl | mem
    · decide
    · exact Entity.lowercase_columnName _ mem
  have looked := get?_ofTexts (("series", series.text) :: texts)
    (names' ▸ nodup) (names' ▸ lower)
  refine ⟨.ofTable (.ofList (("series", series.text) :: texts)), ?_, ?_, ?_, ?_⟩
  · refine flattenIn_eq_ok_iff.2 ⟨("series", series.text) :: texts, ?_, rfl⟩
    refine mapM_write_append.2 ⟨[("series", series.text)], rfl, texts, writes, rfl⟩
  · have leads : (Table.ofList (("series", series.text) :: texts)).contains FlatRecord.leading := by
      have all : ∀ family ∈ RecordFamily.all, "uuid" ∈ "series" :: family.columnNames := by
        decide
      rw [Table.contains_iff, Table.keys_ofList, mem_sortedNames, names']
      exact all v.family v.family.mem_all
    rw [RecordFamily.header_eq, FlatRecord.header_ofTable, if_pos leads, Table.keys_ofList,
      names']
    rfl
  · rw [(looked "series").1]
    rfl
  · intro name other
    have looked' := (get?_ofTexts texts (names ▸ nodup.of_cons)
      (names ▸ fun n mem => lower n (List.mem_cons_of_mem _ mem)) name).2
    rw [(looked name).2, looked']
    exact if_neg other

end TimeBasedValue

end GridRecords
