/-
# Reading timestamps

Two forms are read.  The first is that of RFC 3339, to the second and finer.  When a text is
not of that form it is read to the minute, with lenient numbers and offsets, and what is wrong
is reported against this second form.  Either may be followed by the name of a time zone
between brackets, which is dropped.
-/
import GridRecords.Text.Blank
import GridRecords.Time.Timestamp

namespace GridRecords

open Text

-- powers are those of the core library, whatever else is imported beside this module
attribute [local instance (2000)] instPowNat

/-- Why a text is no timestamp. -/
inductive TimeFault where
  | tooShort
  | invalid
  | outOfRange
  | trailing
  | impossible
deriving DecidableEq, Repr

/-- Wording of a timestamp fault. -/
def TimeFault.message : TimeFault → String
  | .tooShort => "premature end of input"
  | .invalid => "input contains invalid characters"
  | .outOfRange => "input is out of range"
  | .trailing => "trailing input"
  | .impossible => "no possible date and time matching input"

namespace Timestamp

/-- The signs of an offset: plus, hyphen and the minus sign U+2212; `true` for a minus. -/
def offsetSign? : Char → Option Bool
  | '+' => some false
  | '-' => some true
  | '−' => some true
  | _ => none

/-- Two digits. -/
def twoDigits? : List Char → Option (Nat × List Char)
  | a :: b :: rest => if isDigit a && isDigit b then some (digitsValue [a, b], rest) else none
  | _ => none

/-- A character that must stand there. -/
def dropChar? (c : Char) : List Char → Option (List Char)
  | d :: rest => if d = c then some rest else none
  | [] => none

/-! ## The form of RFC 3339 -/

/-- A fraction of at least one digit, in nanoseconds; digits past the ninth are dropped. -/
def readFraction? : List Char → Option (Nat × List Char)
  | '.' :: rest =>
    match takeDigits rest with
    | ([], _) => none
    | (digits, rest) =>
      let kept := digits.take 9
      some (digitsValue kept * 10 ^ (9 - kept.length), rest)
  | s => some (0, s)

/-- `Z`, or an offset of hours and minutes with a colon, below one day. -/
def readOffset? : List Char → Option (Int × List Char)
  | 'Z' :: rest => some (0, rest)
  | 'z' :: rest => some (0, rest)
  | c :: rest => do
    let negative ← offsetSign? c
    let (hours, rest) ← twoDigits? rest
    let rest ← dropChar? ':' rest
    let (minutes, rest) ← twoDigits? rest
    let seconds : Int := hours * 3600 + minutes * 60
    if hours ≤ 23 ∧ minutes ≤ 59 then some (if negative then -seconds else seconds, rest)
    else none
  | [] => none

/-- Reads a whole text in the form of RFC 3339. -/
def ofRfc3339? (s : List Char) : Option Timestamp := do
  let (century, s) ← twoDigits? s
  let (ofCentury, s) ← twoDigits? s
  let s ← dropChar? '-' s
  let (month, s) ← twoDigits? s
  let s ← dropChar? '-' s
  let (day, s) ← twoDigits? s
  let s ← match s with
    | c :: rest => if c = 'T' ∨ c = 't' ∨ c = ' ' then some rest else none
    | [] => none
  let (hour, s) ← twoDigits? s
  let s ← dropChar? ':' s
  let (minute, s) ← twoDigits? s
  let s ← dropChar? ':' s
  let (second, s) ← twoDigits? s
  let (nanos, s) ← readFraction? s
  let (offset, s) ← readOffset? s
  let date : Date := ⟨century * 100 + ofCentury, month, day⟩
  if s.isEmpty ∧ date.isValid ∧ hour ≤ 23 ∧ minute ≤ 59 ∧ second ≤ 60 then
    some (ofLocal ⟨date, hour, minute, second, nanos⟩ offset)
  else none

/-! ## The form to the minute -/

/-- One to `most` digits. -/
def readNumber (most : Nat) (s : List Char) : Except TimeFault (Nat × List Char) :=
  let digits := (takeDigits s).1.take most
  match s, digits with
  | [], _ => .error .tooShort
  | _, [] => .error .invalid
  | _, digits => .ok (digitsValue digits, s.drop digits.length)

/-- A number after blanks, within bounds. -/
def readField (low high : Nat) (s : List Char) :
    Except TimeFault (Nat × List Char) := do
  let (n, rest) ← readNumber 2 (trimStart s)
  if low ≤ n ∧ n ≤ high then .ok (n, rest) else .error .outOfRange

/-- A year after blanks: up to four digits, or any number of digits after a sign. -/
def readYear (s : List Char) : Except TimeFault (Int × List Char) := do
  let (year, rest) ← match trimStart s with
    | '-' :: rest => do
      let (n, after) ← readNumber rest.length rest
      pure (-(n : Int), after)
    | '+' :: rest => do
      let (n, after) ← readNumber rest.length rest
      pure ((n : Int), after)
    | s => do
      let (n, after) ← readNumber 4 s
      pure ((n : Int), after)
  if -2 ^ (31 : Nat) ≤ year ∧ year < 2 ^ (31 : Nat) then .ok (year, rest) else .error .outOfRange

/-- A character that must stand there. -/
def readChar (c : Char) : List Char → Except TimeFault (List Char)
  | [] => .error .tooShort
  | d :: rest => if d = c then .ok rest else .error .invalid

/-- Whether fewer than two bytes are left. -/
def isShort : List Char → Bool
  | [] => true
  | [c] => c.utf8Size == 1
  | _ => false

/-- Minutes of an offset.  They may be missing when nothing is left. -/
def readOffsetMinutes (s : List Char) : Except TimeFault (Nat × List Char) :=
  if s.isEmpty then .ok (0, [])
  else if isShort s then .error .tooShort
  else match twoDigits? s with
    | some (minutes, rest) => if minutes ≤ 59 then .ok (minutes, rest) else .error .outOfRange
    | none => .error .invalid

/-- After blanks `Z`, or a sign with hours, any mix of colons and blanks, and minutes. -/
def readLooseOffset (s : List Char) : Except TimeFault (Int × List Char) :=
  match trimStart s with
  | [] => .error .tooShort
  | 'Z' :: rest => .ok (0, rest)
  | 'z' :: rest => .ok (0, rest)
  | c :: rest =>
    match offsetSign? c with
    | none => .error .invalid
    | some negative =>
      if isShort rest then .error .tooShort
      else match twoDigits? rest with
        | none => .error .invalid
        | some (hours, rest) => do
          let rest := rest.dropWhile fun c => c == ':' || isBlank c
          let (minutes, rest) ← readOffsetMinutes rest
          let seconds : Int := hours * 3600 + minutes * 60
          .ok (if negative then -seconds else seconds, rest)

/-- Reads a whole text to the minute. -/
def ofMinutes (s : List Char) : Except TimeFault Timestamp := do
  let (year, s) ← readYear s
  let s ← readChar '-' s
  let (month, s) ← readField 1 12 s
  let s ← readChar '-' s
  let (day, s) ← readField 1 31 s
  let s ← readChar 'T' s
  let (hour, s) ← readField 0 23 s
  let s ← readChar ':' s
  let (minute, s) ← readField 0 59 s
  let (offset, s) ← readLooseOffset s
  if !s.isEmpty then throw .trailing
  let date : Date := ⟨year, month, day⟩
  if !date.isValid ∨ daySeconds ≤ offset.natAbs then throw .outOfRange
  let t := ofLocal ⟨date, hour, minute, 0, 0⟩ offset
  let universal := Date.ofDays (t.seconds / daySeconds)
  if universal.year < Date.firstYear ∨ Date.lastYear < universal.year then throw .impossible
  pure t

/-! ## Either form -/

/-- The text before the first bracket, when the text ends with a closing one. -/
def dropZone (s : List Char) : List Char :=
  if s.getLast? = some ']' then s.takeWhile (· != '[') else s

/-- Reads a timestamp in either form. -/
def read (text : List Char) : Except TimeFault Timestamp :=
  let s := dropZone text
  match ofRfc3339? s with
  | some t => .ok t
  | none => ofMinutes s

end Timestamp

end GridRecords
