/-
# Kinds of field values

A field holds the text of one value.  Its leaf kind says how the text is read and written.
-/
import GridRecords.Model.Value

namespace GridRecords

/-- Kinds of values with a text of their own. -/
inductive LeafKind where
  | text
  | boolean
  | integer
  | uuid
  | timestamp
  | geoPoint
  /-- a quantity, held in the unit -/
  | quantity (unit : MeasureUnit)
deriving DecidableEq, Repr

namespace LeafKind

/-- The leaf kinds that are no quantities. -/
def basic : List LeafKind := [.text, .boolean, .integer, .uuid, .timestamp, .geoPoint]

/-- All leaf kinds. -/
def all : List LeafKind := basic ++ MeasureUnit.all.map .quantity

/-- Name of a leaf kind, the same for all quantities. -/
def name : LeafKind → String
  | text => "string"
  | boolean => "boolean"
  | integer => "integer"
  | uuid => "uuid"
  | timestamp => "timestamp"
  | geoPoint => "geo-point"
  | quantity _ => "quantity"

/-- A leaf kind in messages, quantities with their unit. -/
def display : LeafKind → String
  | quantity unit => s!"quantity [{unit.symbol}]"
  | kind => kind.name

/-- The leaf kind that writes a value; nothing writes the absent value or an entity. -/
def ofValue? : Value → Option LeafKind
  | .text _ => some text
  | .bool _ => some boolean
  | .int _ => some integer
  | .uuid _ => some uuid
  | .timestamp _ => some timestamp
  | .geoPoint _ => some geoPoint
  | .quantity q => some (quantity q.unit)
  | .null | .entity _ => none

/-- Whether blank text is a value and not an absent one. -/
def acceptsBlank : LeafKind → Bool
  | text | geoPoint => true
  | _ => false

/-- Every leaf kind is in the list of all leaf kinds. -/
theorem mem_all (k : LeafKind) : k ∈ all := by
  cases k
  case quantity u =>
    exact List.mem_append_right _ (List.mem_map.2 ⟨u, MeasureUnit.mem_all u, rfl⟩)
  all_goals exact List.mem_append_left _ (by decide)

end LeafKind

/-- What a boolean field makes of text that is neither `true` nor `false`. -/
inductive BooleanPolicy where
  /-- such text is malformed -/
  | strict
  /-- such text reads as `false` -/
  | lenient
deriving DecidableEq, Repr

end GridRecords
