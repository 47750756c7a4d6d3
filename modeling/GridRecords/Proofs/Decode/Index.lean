/-
# What an index holds

The index of some entities holds, under each uuid, the last of them with that uuid.
-/
import GridRecords.Decode.Reference

namespace GridRecords.ReferenceIndex

variable {i : ReferenceIndex}

/-- Adding an entity changes what is known under its uuid, and nothing else. -/
theorem get?_insert {e : Entity} {uuid : Uuid} (identified : e.uuid? = some uuid) (other : Uuid) :
    (i.insert e).get? other = if other = uuid then some e else i.get? other := by
  unfold insert get?
  rw [identified]
  simp only
  rw [List.lookup_cons]
  by_cases same : other = uuid
  · simp [same]
  · have rest : (i.entities.filter fun entry => entry.1 != uuid).lookup other =
        i.entities.lookup other := by
      induction i.entities with
      | nil => rfl
      | cons entry rest ih =>
          rw [List.filter_cons, List.lookup_cons]
          by_cases gone : entry.1 = uuid
          · have ne : (other == entry.1) = false := by simpa [gone] using same
            rw [ne]
            simpa [gone] using ih
          · have stays : (entry.1 != uuid) = true := by simpa using gone
            rw [if_pos stays, List.lookup_cons, ih]
    have ne : (other == uuid) = false := by simpa using same
    simp [ne, same, rest]

/-- An entity without a uuid is not added. -/
theorem insert_of_uuid?_none {e : Entity} (none : e.uuid? = Option.none) : i.insert e = i := by
  unfold insert
  rw [none]

/-- The entities of an index stand under their own uuids. -/
def Keyed (i : ReferenceIndex) : Prop := ∀ uuid e, i.get? uuid = some e → e.uuid? = some uuid

theorem keyed_empty : empty.Keyed := by
  intro uuid e found
  cases found

theorem Keyed.insert (h : i.Keyed) (e : Entity) : (i.insert e).Keyed := by
  intro uuid x found
  cases identified : e.uuid? with
  | none =>
      rw [insert_of_uuid?_none identified] at found
      exact h uuid x found
  | some own =>
      rw [get?_insert identified] at found
      split at found
      · rename_i same
        cases found
        rw [identified, same]
      · exact h uuid x found

/-- **An index that was put together from entities holds each of them under its own uuid.** -/
theorem keyed_ofList (es : List Entity) : (ofList es).Keyed := by
  have all : ∀ (es : List Entity) (i : ReferenceIndex), i.Keyed →
      (es.foldl ReferenceIndex.insert i).Keyed := by
    intro es
    induction es with
    | nil => intro i h; exact h
    | cons e rest ih => intro i h; exact ih _ (h.insert e)
  exact all es empty keyed_empty

end GridRecords.ReferenceIndex
