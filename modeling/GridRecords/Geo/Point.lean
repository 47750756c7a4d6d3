/-
# Positions

A position is a longitude and a latitude on the WGS84 ellipsoid, written as a `Point` geometry
of JSON text.  Blank text means that there is no position.  A third ordinate, the altitude, is
accepted and dropped.
-/
import GridRecords.Decimal.Layout
import GridRecords.Json.Reader
import GridRecords.Text.Blank

namespace GridRecords

/-- A position, longitude first. -/
structure GeoPoint where
  lon : Float
  lat : Float
deriving BEq, Repr

/-- What is wrong with a geometry that is no point. -/
inductive GeometryFault where
  /-- the text is not JSON, or not of the shape of a geometry -/
  | notGeometry
  /-- the point has another number of ordinates than two or three -/
  | ordinates (count : Nat)
deriving DecidableEq, Repr

/-- Why a position was refused. -/
inductive GeoFault where
  | malformed (text : String) (fault : GeometryFault)
  | notAPoint (kind : String)
  | outOfRange (lon lat : Float)
deriving Repr

/-- Wording of a geometry fault. -/
def GeometryFault.message : GeometryFault → String
  | .notGeometry => "<json>"
  | .ordinates count => s!"a point needs 2 or 3 ordinates, found {count}"

/-- Wording of a position error. -/
def GeoFault.message : GeoFault → String
  | .malformed text fault => s!"malformed geometry '{text}': {fault.message}"
  | .notAPoint kind => s!"expected a Point geometry, got {kind}"
  | .outOfRange lon lat =>
    "coordinate (" ++ Decimal.plain.text lon ++ ", " ++ Decimal.plain.text lat
      ++ ") is outside the WGS84 range"

namespace GeoPoint

/-- A longitude from -180 to 180 and a latitude from -90 to 90 are a position. -/
def ofOrdinates (lon lat : Float) : Except GeoFault GeoPoint :=
  if -180.0 ≤ lon ∧ lon ≤ 180.0 ∧ -90.0 ≤ lat ∧ lat ≤ 90.0 then .ok ⟨lon, lat⟩
  else .error (.outOfRange lon lat)

/-! ## Geometries -/

/-- A geometry before its kind is looked at. -/
structure Geometry where
  kind : String
  coordinates : Json

/-- The only member of that name. -/
def member? (name : String) (members : List (Option String × Json)) : Option (Option Json) :=
  match members.filter fun (key, _) => key == some name with
  | [] => some none
  | [(_, value)] => some (some value)
  | _ => none

/-- Arrays and objects inside the coordinates nest at most this deep. -/
def deepestCoordinates : Nat := 126

/-- A geometry of a kind and coordinates; absent coordinates are `null`. -/
def Geometry.ofParts? (kind : Json) (coordinates : Option Json) : Option Geometry :=
  match kind, coordinates.getD .null with
  | .string (some kind), coordinates =>
    if coordinates.isStrict deepestCoordinates then some ⟨kind, coordinates⟩ else none
  | _, _ => none

/-- The geometry of an object with the members `type` and `coordinates`, each at most once, or
of an array of the two.  Other members are ignored. -/
def Geometry.ofJson? : Json → Option Geometry
  | .object members =>
    if members.all fun (key, _) => key.isSome then do
      let kind ← (← member? "type" members)
      Geometry.ofParts? kind (← member? "coordinates" members)
    else none
  | .array [kind] => Geometry.ofParts? kind none
  | .array [kind, coordinates] => Geometry.ofParts? kind (some coordinates)
  | _ => none

/-- The ordinates of a list of numbers. -/
def ordinates? : Json → Option (List Float)
  | .array items => items.mapM fun
    | .number n => some n.toFloat
    | _ => none
  | _ => none

/-! ## Text -/

/-- Reads a position.  Blank text is no position. -/
def read (text : String) : Except GeoFault (Option GeoPoint) :=
  let text := Text.trim text.toList
  if text.isEmpty then .ok none
  else
    let malformed (fault : GeometryFault) := GeoFault.malformed (String.ofList text) fault
    match (Json.ofText? text).bind Geometry.ofJson? with
    | none => .error (malformed .notGeometry)
    | some geometry =>
      if geometry.kind ≠ "Point" then .error (.notAPoint geometry.kind)
      else match ordinates? geometry.coordinates with
        | none => .error (malformed .notGeometry)
        | some [lon, lat] => (ofOrdinates lon lat).map some
        | some [lon, lat, _] => (ofOrdinates lon lat).map some
        | some other => .error (malformed (.ordinates other.length))

/-- An ordinate in JSON text. -/
def ordinateText (x : Float) : String := (Decimal.coordinate.finiteText? x).getD "null"

/-- A position as a geometry, members in alphabetical order. -/
def text (p : GeoPoint) : String :=
  "\x7b\"coordinates\":[" ++ ordinateText p.lon ++ "," ++ ordinateText p.lat
    ++ "],\"type\":\"Point\"\x7d"

end GeoPoint

end GridRecords
