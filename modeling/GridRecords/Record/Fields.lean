/-
# Records and their contexts

A `FieldRecord` is one row or document: lower-case field names with raw text.  A `Context` holds
the values that are already known when a record is decoded, by parameter or field name.  A
`FlatRecord` is the row that is written: `uuid` first, the other fields by name.
-/
import GridRecords.Model.Value
import GridRecords.Record.Table
import GridRecords.Text.Lowercase

namespace GridRecords

/-! ## Records -/

/-- The fields of one row. -/
structure FieldRecord where
  fields : Table String

namespace FieldRecord

/-- The row without fields. -/
def empty : FieldRecord := ⟨.empty⟩

/-- Sets a field; its name is lower-cased. -/
def insert (r : FieldRecord) (name raw : String) : FieldRecord :=
  ⟨r.fields.insert (Text.lowercase name) raw⟩

/-- The row of some fields, set one after the other. -/
def ofList (fields : List (String × String)) : FieldRecord :=
  fields.foldl (fun r (name, raw) => r.insert name raw) empty

/-- The raw text of a field. -/
def get? (r : FieldRecord) (name : String) : Option String := r.fields.get? name

/-- Whether a row has a field. -/
def contains (r : FieldRecord) (name : String) : Bool := r.fields.contains name

/-- The names of the fields, in order. -/
def keys (r : FieldRecord) : List String := r.fields.keys

/-- The fields in the order of their names. -/
def toList (r : FieldRecord) : List (String × String) := r.fields.entries

/-- Number of fields. -/
def size (r : FieldRecord) : Nat := r.fields.size

/-- Whether a row has no field. -/
def isEmpty (r : FieldRecord) : Bool := r.fields.isEmpty

/-- The fields of the given names. -/
def restrict (r : FieldRecord) (names : List String) : FieldRecord := ⟨r.fields.restrict names⟩

end FieldRecord

/-! ## Contexts -/

/-- Values known ahead of decoding.  Such a value wins over the text of the same name. -/
abbrev Context := Table Value

/-! ## Rows to write -/

/-- A row to write. -/
structure FlatRecord where
  fields : List (String × String)
deriving DecidableEq, Repr

namespace FlatRecord

/-- The column that is written first. -/
def leading : String := "uuid"

/-- The row of some fields: `uuid` first, the rest in the order of their names. -/
def ofTable (t : Table String) : FlatRecord :=
  ⟨((t.get? leading).map (leading, ·)).toList ++ (t.filter (· != leading)).entries⟩

/-- The text of a column. -/
def get? (r : FlatRecord) (name : String) : Option String := lookupEntry name r.fields

/-- The names of the columns. -/
def header (r : FlatRecord) : List String := r.fields.map (·.1)

/-- The texts of the columns. -/
def values (r : FlatRecord) : List String := r.fields.map (·.2)

/-- Number of columns. -/
def size (r : FlatRecord) : Nat := r.fields.length

/-- Whether a row has no column. -/
def isEmpty (r : FlatRecord) : Bool := r.fields.isEmpty

/-- A written row as a row to read. -/
def toRecord (r : FlatRecord) : FieldRecord := .ofList r.fields

end FlatRecord

end GridRecords
