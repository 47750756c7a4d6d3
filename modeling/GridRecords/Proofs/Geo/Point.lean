/-
# Positions read back

The text of a position is JSON text of two ordinates, each of them a number text, and reads back
as the position.  A position that was accepted has finite ordinates (`Within.isFinite`).
-/
import GridRecords.Geo.Point
import GridRecords.Proofs.Quantity.ReadBack

namespace GridRecords

open Text

namespace Json

/-! ## Strings and numbers of JSON text -/

/-- A character that stands for itself in a string literal. -/
def Plain (c : Char) : Prop := c ≠ '"' ∧ c ≠ '\\' ∧ 0x20 ≤ c.toNat ∧ c.toNat < 0xD800

instance : DecidablePred Plain := fun _ => inferInstanceAs (Decidable (_ ∧ _))

theorem plain_of_all {s : List Char} (h : (s.all fun c => decide (Plain c)) = true) :
    ∀ c ∈ s, Plain c := fun c mem => of_decide_eq_true (List.all_eq_true.1 h c mem)

theorem readUnits_plain {s rest : List Char} (plain : ∀ c ∈ s, Plain c) {fuel : Nat}
    (h : s.length < fuel) : readUnits fuel (s ++ '"' :: rest) = some (s.map Char.toNat, rest) := by
  induction s generalizing fuel with
  | nil =>
      obtain ⟨fuel, rfl⟩ : ∃ n, fuel = n + 1 := ⟨fuel - 1, by simp at h; omega⟩
      simp [readUnits]
  | cons c s ih =>
      obtain ⟨fuel, rfl⟩ : ∃ n, fuel = n + 1 := ⟨fuel - 1, by simp at h; omega⟩
      obtain ⟨quote, escape, control, -⟩ := plain c List.mem_cons_self
      have enough : s.length < fuel := by simp at h; omega
      have more := ih (fun d mem => plain d (List.mem_cons_of_mem c mem)) enough
      have printed : ¬c.toNat < 0x20 := Nat.not_lt.2 control
      rw [List.cons_append, readUnits.eq_def]
      simp only [if_neg quote, if_neg escape, if_neg printed, more]
      rfl

theorem joinSurrogates_plain {s : List Char} (plain : ∀ c ∈ s, Plain c) :
    joinSurrogates (s.map Char.toNat) = some s := by
  induction s with
  | nil => rfl
  | cons c s ih =>
      obtain ⟨-, -, -, below⟩ := plain c List.mem_cons_self
      have more := ih fun d mem => plain d (List.mem_cons_of_mem c mem)
      cases s with
      | nil =>
          simp only [List.map_cons, List.map_nil, joinSurrogates]
          rw [if_neg (by omega), Char.ofNat_toNat]
      | cons d s =>
          simp only [List.map_cons, joinSurrogates] at more ⊢
          rw [if_neg (by omega), if_neg (by omega), more, Char.ofNat_toNat]
          rfl

/-- A string literal of plain characters. -/
theorem readString_plain {s rest : List Char} (plain : ∀ c ∈ s, Plain c) :
    readString (s ++ '"' :: rest) = some (some (String.ofList s), rest) := by
  have enough : s.length < (s ++ '"' :: rest).length + 1 := by
    rw [List.length_append]
    omega
  have units : readUnits ((s ++ '"' :: rest).length + 1) (s ++ '"' :: rest) =
      some (s.map Char.toNat, rest) := readUnits_plain plain enough
  unfold readString
  rw [units, Option.map_some]
  simp only [joinSurrogates_plain plain, Option.map_some]

theorem ends_cons {c : Char} {rest : List Char} (digit : isDigit c = false)
    (other : c ∉ ['.', 'e', 'E']) : Decimal.NumberText.Ends (c :: rest) := by
  intro d first
  cases first
  exact ⟨digit, other⟩

/-- A number text starts with none of the characters that start other values. -/
theorem exists_cons_text {p : Decimal.NumberText} (h : p.WellFormed) (rest : List Char) :
    ∃ c more, p.text ++ rest = c :: more ∧
      c ∉ ['"', '[', ']', '\x7b', 'n', 't', 'f', ' ', '\n', '\t', '\r'] := by
  obtain ⟨c, more, whole, digit⟩ := Decimal.NumberText.exists_cons_whole h
  unfold Decimal.NumberText.text Decimal.signed
  split
  · exact ⟨'-', _, rfl, by decide⟩
  · rw [whole]
    refine ⟨c, _, rfl, ?_⟩
    intro mem
    have all : (['"', '[', ']', '\x7b', 'n', 't', 'f', ' ', '\n', '\t', '\r'].all
        fun c => !isDigit c) = true := by decide
    have none : isDigit c = false := by simpa using List.all_eq_true.1 all c mem
    rw [none] at digit
    cases digit

theorem skipSpace_cons {c : Char} (h : isSpace c = false) (rest : List Char) :
    skipSpace (c :: rest) = c :: rest := by
  simp [skipSpace, h]

/-- A number text as a value. -/
theorem readValue_number {p : Decimal.NumberText} (h : p.WellFormed) {rest : List Char}
    (ends : Decimal.NumberText.Ends rest) (fuel : Nat) :
    readValue (fuel + 1) (p.text ++ rest) = some (.number p.numeral, rest) := by
  have number := Decimal.NumberText.readNumber_text h ends
  obtain ⟨c, more, starts, other⟩ := exists_cons_text h rest
  simp only [List.mem_cons, List.not_mem_nil, or_false, not_or] at other
  have noSpace : skipSpace (c :: more) = c :: more := by
    refine skipSpace_cons ?_ more
    unfold isSpace
    simp [other]
  rw [starts] at number ⊢
  unfold readValue
  rw [noSpace]
  split
  · rename_i none
    cases none
  · rename_i quote
    cases quote
    simp at other
  · rename_i bracket
    cases bracket
    simp at other
  · rename_i brace
    cases brace
    simp at other
  · rename_i word
    cases word
    simp at other
  · rename_i word
    cases word
    simp at other
  · rename_i word
    cases word
    simp at other
  · exact number

/-- Two numbers up to the closing bracket. -/
theorem readItems_two {a b : Decimal.NumberText} (ha : a.WellFormed) (hb : b.WellFormed)
    (fuel : Nat) (rest : List Char) :
    readItems (fuel + 3) (a.text ++ ',' :: (b.text ++ ']' :: rest)) =
      some ([.number a.numeral, .number b.numeral], rest) := by
  have atComma : Decimal.NumberText.Ends (',' :: (b.text ++ ']' :: rest)) :=
    ends_cons (by decide) (by decide)
  have atBracket : Decimal.NumberText.Ends (']' :: rest) := ends_cons (by decide) (by decide)
  have first := readValue_number ha atComma (fuel + 1)
  have second := readValue_number hb atBracket fuel
  have comma : isSpace ',' = false := by decide
  have bracket : isSpace ']' = false := by decide
  simp [readItems, first, second, skipSpace_cons comma, skipSpace_cons bracket]

/-- An array of two numbers. -/
theorem readValue_two {a b : Decimal.NumberText} (ha : a.WellFormed) (hb : b.WellFormed)
    (fuel : Nat) (rest : List Char) :
    readValue (fuel + 4) ('[' :: (a.text ++ ',' :: (b.text ++ ']' :: rest))) =
      some (.array [.number a.numeral, .number b.numeral], rest) := by
  have items := readItems_two ha hb fuel rest
  obtain ⟨c, more, starts, other⟩ := exists_cons_text ha (',' :: (b.text ++ ']' :: rest))
  simp only [List.mem_cons, List.not_mem_nil, or_false, not_or] at other
  have noSpace : skipSpace (c :: more) = c :: more := by
    refine skipSpace_cons ?_ more
    unfold isSpace
    simp [other]
  have bracket : isSpace '[' = false := by decide
  rw [starts] at items ⊢
  simp [readValue, skipSpace_cons bracket, noSpace, other, items]

/-- A string literal as a value. -/
theorem readValue_plain {s : List Char} (plain : ∀ c ∈ s, Plain c) (fuel : Nat)
    (rest : List Char) :
    readValue (fuel + 1) ('"' :: (s ++ '"' :: rest)) =
      some (.string (some (String.ofList s)), rest) := by
  have quote : isSpace '"' = false := by decide
  simp only [readValue, skipSpace_cons quote, readString_plain plain, Option.map_some]

/-- A member up to the closing brace. -/
theorem readMembers_last {key s rest : List Char} (plain : ∀ c ∈ key, Plain c) {fuel : Nat}
    {value : Json} (h : readValue fuel s = some (value, '\x7d' :: rest)) :
    readMembers (fuel + 1) ('"' :: (key ++ '"' :: ':' :: s)) =
      some ([(some (String.ofList key), value)], rest) := by
  have quote : isSpace '"' = false := by decide
  have colon : isSpace ':' = false := by decide
  have brace : isSpace '\x7d' = false := by decide
  simp [readMembers, skipSpace_cons quote, skipSpace_cons colon, skipSpace_cons brace,
    readString_plain plain, h]

/-- A member with others behind it. -/
theorem readMembers_more {key s more rest : List Char} (plain : ∀ c ∈ key, Plain c) {fuel : Nat}
    {value : Json} {members : List (Option String × Json)}
    (h : readValue fuel s = some (value, ',' :: more))
    (others : readMembers fuel more = some (members, rest)) :
    readMembers (fuel + 1) ('"' :: (key ++ '"' :: ':' :: s)) =
      some ((some (String.ofList key), value) :: members, rest) := by
  have quote : isSpace '"' = false := by decide
  have colon : isSpace ':' = false := by decide
  have comma : isSpace ',' = false := by decide
  simp [readMembers, skipSpace_cons quote, skipSpace_cons colon, skipSpace_cons comma,
    readString_plain plain, h, others]

/-- An object. -/
theorem readValue_object {s rest : List Char} {fuel : Nat}
    {members : List (Option String × Json)}
    (h : readMembers fuel ('"' :: s) = some (members, rest)) :
    readValue (fuel + 1) ('\x7b' :: '"' :: s) = some (.object members, rest) := by
  have quote : isSpace '"' = false := by decide
  have brace : isSpace '\x7b' = false := by decide
  simp [readValue, skipSpace_cons quote, skipSpace_cons brace, h]

end Json

namespace GeoPoint

/-! ## The text of a position -/

/-- The JSON value of a position. -/
def json (lon lat : Decimal.Numeral) : Json :=
  .object [(some "coordinates", .array [.number lon, .number lat]),
    (some "type", .string (some "Point"))]

theorem plain_coordinates : ∀ c ∈ "coordinates".toList, Json.Plain c :=
  Json.plain_of_all (by decide)

theorem plain_type : ∀ c ∈ "type".toList, Json.Plain c := Json.plain_of_all (by decide)

theorem plain_point : ∀ c ∈ "Point".toList, Json.Plain c := Json.plain_of_all (by decide)

/-- The text of a point, names and numbers one after the other. -/
def pointText (lon lat : List Char) : List Char :=
  '\x7b' :: '"' :: ("coordinates".toList ++ '"' :: ':' :: '[' :: (lon ++ ',' :: (lat ++ ']' ::
    ',' :: '"' :: ("type".toList ++ '"' :: ':' :: '"' :: ("Point".toList ++ ['"', '\x7d'])))))

/-- Two number texts between the brackets and names of a point are read as its JSON value. -/
theorem ofText?_pointText {lon lat : Decimal.NumberText} (hlon : lon.WellFormed)
    (hlat : lat.WellFormed) :
    Json.ofText? (pointText lon.text lat.text) = some (json lon.numeral lat.numeral) := by
  obtain ⟨fuel, long⟩ : ∃ n, (pointText lon.text lat.text).length = n + 6 := by
    refine ⟨(pointText lon.text lat.text).length - 6, ?_⟩
    unfold pointText
    simp only [List.length_cons, List.length_append]
    omega
  have point : Json.readValue (fuel + 4) ('"' :: ("Point".toList ++ ['"', '\x7d'])) =
      some (.string (some "Point"), ['\x7d']) := by
    rw [Json.readValue_plain plain_point, String.ofList_toList]
  have type := Json.readMembers_last plain_type point
  have coordinates := Json.readMembers_more plain_coordinates
    (Json.readValue_two hlon hlat (fuel + 1) _) type
  have object := Json.readValue_object coordinates
  rw [String.ofList_toList, String.ofList_toList] at object
  unfold Json.ofText?
  rw [long]
  unfold pointText json
  simp only [object]
  rfl

/-- What is read from the JSON value of a position. -/
theorem ofJson?_json {lon lat : Decimal.Numeral} (hlon : lon.toFloat.isFinite = true)
    (hlat : lat.toFloat.isFinite = true) :
    Geometry.ofJson? (json lon lat) = some ⟨"Point", .array [.number lon, .number lat]⟩ := by
  simp [Geometry.ofJson?, json, member?, Geometry.ofParts?, Json.isStrict, Json.allStrict, hlon,
    hlat, deepestCoordinates]

/-! ## Positions -/

/-- The text of a position whose ordinates have a text. -/
theorem toList_text {p : GeoPoint} {lon lat : String}
    (hlon : Decimal.coordinate.finiteText? p.lon = some lon)
    (hlat : Decimal.coordinate.finiteText? p.lat = some lat) :
    p.text.toList = pointText lon.toList lat.toList := by
  unfold text ordinateText pointText
  rw [hlon, hlat]
  simp only [Option.getD_some, String.toList_append]
  simp

open Float.Model in
/-- What lies between finite bounds is finite. -/
theorem isFinite_of_bounds {x low high : Float} (finiteLow : low.isFinite = true)
    (finiteHigh : high.isFinite = true) (above : low ≤ x) (below : x ≤ high) :
    x.isFinite = true := by
  have finiteLow' : low.toModel.unpack.isFinite = true := finiteLow
  have finiteHigh' : high.toModel.unpack.isFinite = true := finiteHigh
  have above' : low.toModel.unpack.le x.toModel.unpack = true :=
    of_decide_eq_true (show low.le x = true from above)
  have below' : x.toModel.unpack.le high.toModel.unpack = true :=
    of_decide_eq_true (show x.le high = true from below)
  show x.toModel.unpack.isFinite = true
  generalize x.toModel.unpack = value at *
  generalize low.toModel.unpack = least at *
  generalize high.toModel.unpack = most at *
  cases value with
  | notANumber => cases below'
  | infinity sign =>
      -- an infinite value is beyond one of the bounds
      cases sign with
      | positive => cases most <;> first | cases below' | cases finiteHigh'
      | negative => cases least <;> first | cases above' | cases finiteLow'
  | zero sign => rfl
  | finite sign m e h => rfl

/-- Trimming leaves the text of a position alone: it stands between braces. -/
theorem trim_pointText (lon lat : List Char) : trim (pointText lon lat) = pointText lon lat := by
  refine trim_eq_self ?_ ?_
  · intro c first
    cases first
    decide
  · intro c last
    have brace : (pointText lon lat).getLast? = some '\x7d' := by
      unfold pointText
      simp [List.getLast?_cons, List.getLast?_append]
    rw [brace] at last
    cases last
    decide

/-- The ordinates of a position that was accepted have number texts that read back. -/
theorem exists_pointText {p : GeoPoint} (h : ofOrdinates p.lon p.lat = .ok p) :
    ∃ lon lat : Decimal.NumberText, lon.WellFormed ∧ lat.WellFormed ∧
      p.text.toList = pointText lon.text lat.text ∧
      (lon.numeral.toFloat = p.lon ∧ p.lon.isFinite = true) ∧
      lat.numeral.toFloat = p.lat ∧ p.lat.isFinite = true := by
  have bounds : -180.0 ≤ p.lon ∧ p.lon ≤ 180.0 ∧ -90.0 ≤ p.lat ∧ p.lat ≤ 90.0 := by
    unfold ofOrdinates at h
    split at h
    · assumption
    · cases h
  have finiteLon : p.lon.isFinite = true :=
    isFinite_of_bounds (by decide) (by decide) bounds.1 bounds.2.1
  have finiteLat : p.lat.isFinite = true :=
    isFinite_of_bounds (by decide) (by decide) bounds.2.2.1 bounds.2.2.2
  obtain ⟨lonText, hlon⟩ := (Decimal.exists_finiteText?_iff Decimal.coordinate _).2 finiteLon
  obtain ⟨latText, hlat⟩ := (Decimal.exists_finiteText?_iff Decimal.coordinate _).2 finiteLat
  obtain ⟨lon, wellFormedLon, writtenLon, valueLon⟩ := exists_numberText_of_finiteText? hlon
  obtain ⟨lat, wellFormedLat, writtenLat, valueLat⟩ := exists_numberText_of_finiteText? hlat
  refine ⟨lon, lat, wellFormedLon, wellFormedLat, ?_, ⟨valueLon, finiteLon⟩, valueLat, finiteLat⟩
  rw [toList_text hlon hlat, writtenLon, writtenLat]

/-- Trimming leaves the text of a position alone. -/
theorem trim_text {p : GeoPoint} (h : ofOrdinates p.lon p.lat = .ok p) :
    trim p.text.toList = p.text.toList := by
  obtain ⟨lon, lat, -, -, text, -⟩ := exists_pointText h
  rw [text]
  exact trim_pointText lon.text lat.text

/-- **The text of a position that was accepted is read as the position.** -/
theorem read_text {p : GeoPoint} (h : ofOrdinates p.lon p.lat = .ok p) :
    read p.text = .ok (some p) := by
  obtain ⟨lon, lat, wellFormedLon, wellFormedLat, text, ⟨valueLon, finiteLon⟩, valueLat,
    finiteLat⟩ := exists_pointText h
  have some' : (pointText lon.text lat.text).isEmpty = false := rfl
  rw [← valueLon] at finiteLon
  rw [← valueLat] at finiteLat
  have geometry := ofJson?_json finiteLon finiteLat
  unfold read
  simp only [text, trim_pointText, some', ofText?_pointText wellFormedLon wellFormedLat,
    Option.bind_some, geometry]
  simp [ordinates?, valueLon, valueLat, h, Except.map]

end GeoPoint

end GridRecords
