/-
# Values

What a record field is decoded to, and what entities are built from.  `null` is the absent
value: a field missing from its record, or a blank one where blank text says nothing.
-/
import GridRecords.Model.Entity
import GridRecords.Text.Quoted

namespace GridRecords

/-- A decoded value. -/
inductive Value where
  | null
  | text (s : String)
  | bool (b : Bool)
  | int (n : Int)
  | uuid (u : Uuid)
  | timestamp (t : Timestamp)
  /-- a position; blank text is the position `none` -/
  | geoPoint (p : Option GeoPoint)
  | quantity (q : Quantity)
  | entity (e : Entity)
deriving BEq, Repr

namespace Value

/-- Whether a value is the absent one. -/
def isNull : Value → Bool
  | null => true
  | _ => false

/-- Name of the type of a value. -/
def typeName : Value → String
  | null => "null"
  | text _ => "string"
  | bool _ => "boolean"
  | int _ => "integer"
  | uuid _ => "uuid"
  | timestamp _ => "timestamp"
  | geoPoint _ => "geo-point"
  | quantity _ => "quantity"
  | entity _ => "entity"

/-- A value in messages. -/
def display : Value → String
  | null => "null"
  | text s => Text.quoted s
  | bool b => toString b
  | int n => toString n
  | uuid u => u.text
  | timestamp t => t.text
  | geoPoint none => "no point"
  | geoPoint (some p) => p.text
  | quantity q => q.text
  | entity e => s!"{e.kind.name} {e.label}"

/-- The value of an optional part. -/
def ofOption {α : Type} (make : α → Value) : Option α → Value
  | none => null
  | some a => make a

end Value

end GridRecords
