/-
# Flattening

An entity is written as one row: the texts of its columns, `uuid` first and the others by name.
The first column that cannot be written fails the whole row.
-/
import GridRecords.Record.Fields
import GridRecords.Row.Cell
import GridRecords.Row.Family
import GridRecords.Schema.Basic

namespace GridRecords

/-- The texts of columns whose units are those of a kind. -/
def cellTexts (kind : EntityKind) (columns : Columns) : Except Failure (List (String × String)) :=
  columns.mapM fun (field, value) => do return (field, ← cellText kind field value)

namespace TimeBasedValue

/-- Adds the columns of one source to a row.  The source must supply what it is asked for, and no
column twice. -/
def addSource (row : Table String) (source : RowSource) (expected : List String)
    (columns : Columns) : Except Failure (Table String) := do
  let supplied := sortedNames (columns.map (·.1))
  let expected := sortedNames expected
  if supplied ≠ expected then
    throw (.flatten .timeBasedValue source.name (Text.quotedSet supplied)
      ("source must supply exactly " ++ Text.quotedSet expected))
  columns.foldlM (fun row (field, value) => do
    let written ← cellText source.unitsFrom field value
    if row.contains field then
      throw (.flatten .timeBasedValue field value.display
        s!"claimed again by the {source.name} source")
    return row.insert field written) row

/-- Writes a value, with the series it belongs to if there is one. -/
def flattenIn (v : TimeBasedValue) (series : Option Uuid) : Except Failure FlatRecord := do
  let parts := v.family.partition series.isSome
  let row ← parts.foldlM (fun row (source, expected) =>
    addSource row source expected (v.supplied series source)) Table.empty
  return .ofTable row

/-- Writes a value on its own. -/
def flatten (v : TimeBasedValue) : Except Failure FlatRecord := v.flattenIn none

end TimeBasedValue

/-- Writes the entries of a series, each with the uuid of the series. -/
def TimeSeries.flatten (s : TimeSeries) : Except Failure (List FlatRecord) :=
  s.entries.mapM fun entry => entry.flattenIn (some s.uuid)

/-- Writes an entity. -/
def Entity.flatten : Entity → Except Failure FlatRecord
  | .timeBasedValue v => v.flatten
  | e => do return .ofTable (.ofList (← cellTexts e.kind e.columns))

end GridRecords
