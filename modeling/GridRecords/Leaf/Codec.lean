/-
# Reading and writing field values

`LeafKind.decode` reads the text of a field and `LeafKind.encode` writes a value.  Blank text is
the absent value, except for strings, which are kept as they are, and for positions, where it
means that there is none.
-/
import GridRecords.Leaf.Integer
import GridRecords.Leaf.Kind
import GridRecords.Record.Fields
import GridRecords.Report.Failure
import GridRecords.Text.Blank
import GridRecords.Time.Reader

namespace GridRecords

/-- Text of a magnitude in a field; infinite and undefined ones have none. -/
def amountText? (x : Float) : Option String := Decimal.amount.finiteText? x

namespace LeafKind

/-! ## Reading -/

/-- Reads a boolean; the case of its letters does not matter. -/
def readBool? (policy : BooleanPolicy) (s : List Char) : Option Bool :=
  let lower := s.map Char.toLower
  if lower = "true".toList then some true
  else if lower = "false".toList then some false
  else match policy with
    | .strict => none
    | .lenient => some false

/-- Reads the hyphenated form of a uuid; the reason of a refusal is worded. -/
def readUuid (s : List Char) : Except String Uuid :=
  let length := Uuid.byteLength s
  if length = 36 then (Uuid.readHyphenated s).mapError UuidFault.message
  else .error s!"expected 36 characters, found {length}"

/-- Reads text that is not blank, blanks around it removed; the reason of a refusal is worded.
Strings keep the text as it was given. -/
def readValue (policy : BooleanPolicy) (raw : String) (text : List Char) :
    LeafKind → Except String Value
  | .text => .ok (.text raw)
  | .boolean =>
    match readBool? policy text with
    | some b => .ok (.bool b)
    | none => .error "expected 'true' or 'false'"
  | .integer => (readInteger text).map Value.int |>.mapError IntegerFault.message
  | .uuid => (readUuid text).map Value.uuid
  | .timestamp => (Timestamp.read text).map Value.timestamp |>.mapError TimeFault.message
  | .geoPoint =>
    (GeoPoint.read (String.ofList text)).map Value.geoPoint |>.mapError GeoFault.message
  | .quantity unit =>
    (Quantity.read (String.ofList text) unit).map Value.quantity |>.mapError UnitFault.message

/-- Reads the text of a field. -/
def decode (policy : BooleanPolicy) (kind : LeafKind) (raw : String) : Except Failure Value :=
  let text := Text.trim raw.toList
  if text.isEmpty && !kind.acceptsBlank then .ok .null
  else (kind.readValue policy raw text).mapError (.parsing kind.name raw ·)

/-- The field that a whole record is read from. -/
def valueField : String := "value"

/-- Reads a record with one relevant field: the field `value`, else the first one by name that
the context does not know.  What the context knows is taken from it. -/
def decodeRecord (policy : BooleanPolicy) (kind : LeafKind) (r : FieldRecord) (known : Context) :
    Except Failure Value :=
  match known.get? valueField with
  | some value => .ok value
  | none =>
    let firstOpen := (r.toList.find? fun (name, _) => !known.contains name).map (·.2)
    match (r.get? valueField).or firstOpen with
    | some raw => kind.decode policy raw
    | none => .ok ((r.keys.findSome? known.get?).getD .null)

/-! ## Writing -/

/-- Writes a quantity in the unit of its field; the reason of a refusal is worded. -/
def quantityText (unit : MeasureUnit) (q : Quantity) : Except String String :=
  match q.convert unit with
  | .error e => .error e.message
  | .ok converted =>
    match amountText? converted.value with
    | some written => .ok written
    | none => .error "not a finite number"

/-- Writes a value.  The absent value is written as blank text. -/
def encode (kind : LeafKind) (value : Value) : Except Failure String :=
  match kind, value with
  | _, .null => .ok ""
  | .text, .text s => .ok s
  | .boolean, .bool b => .ok (toString b)
  | .integer, .int n => .ok (toString n)
  | .uuid, .uuid u => .ok u.text
  | .timestamp, .timestamp t => .ok t.text
  | .geoPoint, .geoPoint p => .ok ((p.map GeoPoint.text).getD "")
  | .quantity unit, .quantity q => (quantityText unit q).mapError (.parsing kind.name q.text ·)
  | _, _ =>
    .error (.parsing kind.name value.display s!"cannot encode a {value.typeName} value")

end LeafKind

end GridRecords
