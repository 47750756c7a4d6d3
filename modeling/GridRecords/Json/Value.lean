/-
# Values of JSON text

A value keeps what its text says, also where that has no meaning in Unicode or among the
doubles: a string may hold half of a surrogate pair, a number may be out of range.  `isStrict`
singles out the values without such a part and without deep nesting.
-/
import GridRecords.Decimal.Numeral

namespace GridRecords

/-- A value of JSON text.  A string that holds half of a surrogate pair is `none`. -/
inductive Json where
  | null
  | bool (b : Bool)
  | number (n : Decimal.Numeral)
  | string (s : Option String)
  | array (items : List Json)
  | object (members : List (Option String × Json))

namespace Json

mutual

/-- Whether arrays and objects nest at most `depth` deep, all strings are Unicode text and all
numbers are doubles. -/
def isStrict : Nat → Json → Bool
  | _, .null => true
  | _, .bool _ => true
  | _, .number n => n.toFloat.isFinite
  | _, .string s => s.isSome
  | 0, .array _ => false
  | 0, .object _ => false
  | depth + 1, .array items => allStrict depth items
  | depth + 1, .object members => membersStrict depth members

/-- Whether all items of an array are strict. -/
def allStrict : Nat → List Json → Bool
  | _, [] => true
  | depth, item :: rest => isStrict depth item && allStrict depth rest

/-- Whether all members of an object are strict, their keys included. -/
def membersStrict : Nat → List (Option String × Json) → Bool
  | _, [] => true
  | depth, (key, item) :: rest =>
    key.isSome && isStrict depth item && membersStrict depth rest

end

end Json

end GridRecords
