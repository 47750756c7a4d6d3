/-
# Timestamps

A timestamp is an instant together with the offset from universal time under which it is
written.  Timestamps are compared by instant.  A leap second is kept as the second before it
with a fraction of one second or more, so it lies between `:59` and the next `:00`.  Nothing keeps
such a fraction from following another second; it is written as the second after that one.
-/
import GridRecords.Text.Digit
import GridRecords.Time.Calendar

namespace GridRecords

open Text

/-- An instant with the offset it is written under. -/
structure Timestamp where
  /-- seconds of universal time since day zero -/
  seconds : Int
  /-- the fraction in nanoseconds; one second or more inside a leap second -/
  nanos : Nat
  /-- seconds that local time is ahead of universal time -/
  offset : Int
deriving DecidableEq, Repr

namespace Timestamp

/-- Whether two timestamps are the same instant. -/
def sameInstant (s t : Timestamp) : Bool := s.seconds == t.seconds && s.nanos == t.nanos

/-- Timestamps are equal when they are the same instant. -/
instance : BEq Timestamp := ⟨sameInstant⟩

/-- Whether one timestamp is an earlier instant than another. -/
def isBefore (s t : Timestamp) : Bool :=
  s.seconds < t.seconds || (s.seconds == t.seconds && s.nanos < t.nanos)

/-- Whether one timestamp is no later an instant than another. -/
def isAtMost (s t : Timestamp) : Bool := !t.isBefore s

/-! ## Local fields -/

/-- Seconds of a day. -/
def daySeconds : Int := 86400

/-- Nanoseconds of a second. -/
def nanosPerSecond : Nat := 1000000000

/-- Date and time of day as a clock under some offset shows them. -/
structure Local where
  date : Date
  hour : Nat
  minute : Nat
  /-- sixty inside a leap second -/
  second : Nat
  nanos : Nat
deriving DecidableEq, Repr

/-- The local fields of a timestamp. -/
def toLocal (t : Timestamp) : Local :=
  let seconds := t.seconds + t.offset
  let ofDay := (seconds % daySeconds).toNat
  let leap := t.nanos / nanosPerSecond
  { date := Date.ofDays (seconds / daySeconds)
    hour := ofDay / 3600
    minute := ofDay / 60 % 60
    second := ofDay % 60 + leap
    nanos := t.nanos - leap * nanosPerSecond }

/-- The timestamp of local fields under an offset.  Second sixty is a leap second. -/
def ofLocal (l : Local) (offset : Int) : Timestamp :=
  let leap := l.second / 60
  let ofDay := l.hour * 3600 + l.minute * 60 + (l.second - leap)
  { seconds := l.date.toDays * daySeconds + ofDay - offset
    nanos := l.nanos + leap * nanosPerSecond
    offset := offset }

/-! ## Writing -/

/-- Years outside 0 to 9999 carry a sign. -/
def yearText (year : Int) : List Char :=
  if 0 ≤ year ∧ year ≤ 9999 then padded 4 year.toNat
  else (if year < 0 then '-' else '+') :: padded 4 year.natAbs

/-- A date with hyphens. -/
def dateText (d : Date) : List Char :=
  yearText d.year ++ '-' :: padded 2 d.month ++ '-' :: padded 2 d.day

/-- No fraction, or three, six or nine digits of it, as few as say it all. -/
def fractionText (nanos : Nat) : List Char :=
  if nanos = 0 then []
  else if nanos % 1000000 = 0 then '.' :: padded 3 (nanos / 1000000)
  else if nanos % 1000 = 0 then '.' :: padded 6 (nanos / 1000)
  else '.' :: padded 9 nanos

/-- A time of day with colons. -/
def clockText (l : Local) : List Char :=
  padded 2 l.hour ++ ':' :: padded 2 l.minute ++ ':' :: padded 2 l.second ++ fractionText l.nanos

/-- An offset in hours and minutes, to the nearest minute. -/
def offsetText (offset : Int) : List Char :=
  let minutes := (offset.natAbs + 30) / 60
  (if offset < 0 then '-' else '+') :: padded 2 (minutes / 60) ++ ':' :: padded 2 (minutes % 60)

/-- An offset in hours, minutes and seconds, the seconds only if there are any. -/
def exactOffsetText (offset : Int) : List Char :=
  let seconds := offset.natAbs
  (if offset < 0 then '-' else '+') :: padded 2 (seconds / 3600)
    ++ ':' :: padded 2 (seconds / 60 % 60)
    ++ (if seconds % 60 = 0 then [] else ':' :: padded 2 (seconds % 60))

/-- A timestamp in the form of RFC 3339, with `Z` for no offset. -/
def text (t : Timestamp) : String :=
  let l := t.toLocal
  String.ofList (dateText l.date ++ 'T' :: clockText l
    ++ (if t.offset = 0 then ['Z'] else offsetText t.offset))

/-- A timestamp in messages, its parts separated by spaces. -/
def spacedText (t : Timestamp) : String :=
  let l := t.toLocal
  String.ofList (dateText l.date ++ ' ' :: clockText l ++ ' ' :: exactOffsetText t.offset)

end Timestamp

end GridRecords
