/-
# Reading JSON text

A recursive-descent reader over characters.  Each function takes the text and gives what it
read with the text after it.  The fuel bounds the nesting and the number of items; a text of
`n` characters never needs more than `n + 1`.
-/
import GridRecords.Json.Value

namespace GridRecords.Json

open Decimal Text

/-- The blank characters of JSON text. -/
def isSpace (c : Char) : Bool := c == ' ' || c == '\n' || c == '\t' || c == '\r'

/-- The text from its first character that is not blank. -/
def skipSpace (s : List Char) : List Char := s.dropWhile isSpace

/-! ## Strings -/

/-- Four hexadecimal digits and the text after them. -/
def readHex4 : List Char → Option (Nat × List Char)
  | a :: b :: c :: d :: rest => do
    let (a, b, c, d) := (← hexValue? a, ← hexValue? b, ← hexValue? c, ← hexValue? d)
    some (((a * 16 + b) * 16 + c) * 16 + d, rest)
  | _ => none

/-- The character a one-letter escape stands for. -/
def escaped? : Char → Option Char
  | '"' => some '"'
  | '\\' => some '\\'
  | '/' => some '/'
  | 'b' => some '\x08'
  | 'f' => some '\x0c'
  | 'n' => some '\n'
  | 'r' => some '\r'
  | 't' => some '\t'
  | _ => none

/-- What a string literal holds: code units, some of which may be surrogates. -/
abbrev CodeUnits := List Nat

/-- Joins surrogate pairs; half a pair leaves no text. -/
def joinSurrogates : CodeUnits → Option (List Char)
  | [] => some []
  | [n] => if 0xD800 ≤ n ∧ n ≤ 0xDFFF then none else some [Char.ofNat n]
  | n :: m :: rest =>
    if 0xD800 ≤ n ∧ n ≤ 0xDBFF ∧ 0xDC00 ≤ m ∧ m ≤ 0xDFFF then
      (joinSurrogates rest).map (Char.ofNat (0x10000 + (n - 0xD800) * 0x400 + (m - 0xDC00)) :: ·)
    else if 0xD800 ≤ n ∧ n ≤ 0xDFFF then none
    else (joinSurrogates (m :: rest)).map (Char.ofNat n :: ·)

/-- The inside of a string literal up to its closing quote, and the text after it. -/
def readUnits : Nat → List Char → Option (CodeUnits × List Char)
  | 0, _ => none
  | _, [] => none
  | fuel + 1, c :: rest =>
    if c = '"' then some ([], rest)
    else if c = '\\' then
      match rest with
      | [] => none
      | 'u' :: rest => do
        let (n, rest) ← readHex4 rest
        let (units, rest) ← readUnits fuel rest
        some (n :: units, rest)
      | e :: rest => do
        let c ← escaped? e
        let (units, rest) ← readUnits fuel rest
        some (c.toNat :: units, rest)
    else if c.toNat < 0x20 then none
    else do
      let (units, rest) ← readUnits fuel rest
      some (c.toNat :: units, rest)

/-- A string literal after its opening quote. -/
def readString (s : List Char) : Option (Option String × List Char) :=
  (readUnits (s.length + 1) s).map fun (units, rest) =>
    ((joinSurrogates units).map String.ofList, rest)

/-! ## Numbers -/

/-- The whole part of a number: one zero, or digits that do not start with one. -/
def readWhole (s : List Char) : Option (List Char × List Char) :=
  match takeDigits s with
  | ([], _) => none
  | ('0' :: more, rest) => some (['0'], more ++ rest)
  | found => some found

/-- A part that starts with the point or the exponent mark and needs a digit. -/
def readTail (mark : List Char) (s : List Char) : Option (List Char × List Char) :=
  match takeDigits s with
  | ([], _) => none
  | (digits, rest) => some (mark ++ digits, rest)

/-- An optional fraction. -/
def readFraction : List Char → Option (List Char × List Char)
  | '.' :: rest => readTail ['.'] rest
  | s => some ([], s)

/-- An optional exponent. -/
def readExponent : List Char → Option (List Char × List Char)
  | [] => some ([], [])
  | c :: rest =>
    if c = 'e' ∨ c = 'E' then
      match rest with
      | '+' :: rest => readTail ['e', '+'] rest
      | '-' :: rest => readTail ['e', '-'] rest
      | rest => readTail ['e'] rest
    else some ([], c :: rest)

/-- A number and the text after it. -/
def readNumber (s : List Char) : Option (Json × List Char) := do
  let (sign, s) := match s with
    | '-' :: rest => (['-'], rest)
    | s => ([], s)
  let (whole, s) ← readWhole s
  let (fraction, s) ← readFraction s
  let (exponent, s) ← readExponent s
  let n ← Numeral.ofText? (sign ++ whole ++ fraction ++ exponent)
  some (.number n, s)

/-! ## Values -/

/-- The text after a literal word. -/
def dropWord (word s : List Char) : Option (List Char) :=
  if word.isPrefixOf s then some (s.drop word.length) else none

mutual

/-- A value, blanks before it skipped, and the text after it. -/
def readValue : Nat → List Char → Option (Json × List Char)
  | 0, _ => none
  | fuel + 1, s =>
    match skipSpace s with
    | [] => none
    | '"' :: rest => (readString rest).map fun (s, rest) => (.string s, rest)
    | '[' :: rest =>
      match skipSpace rest with
      | ']' :: rest => some (.array [], rest)
      | rest => (readItems fuel rest).map fun (items, rest) => (.array items, rest)
    | '\x7b' :: rest =>
      match skipSpace rest with
      | '\x7d' :: rest => some (.object [], rest)
      | rest => (readMembers fuel rest).map fun (members, rest) => (.object members, rest)
    | s@('n' :: _) => (dropWord ['n', 'u', 'l', 'l'] s).map (.null, ·)
    | s@('t' :: _) => (dropWord ['t', 'r', 'u', 'e'] s).map (.bool true, ·)
    | s@('f' :: _) => (dropWord ['f', 'a', 'l', 's', 'e'] s).map (.bool false, ·)
    | s => readNumber s

/-- One or more items up to the closing bracket. -/
def readItems : Nat → List Char → Option (List Json × List Char)
  | 0, _ => none
  | fuel + 1, s => do
    let (item, rest) ← readValue fuel s
    match skipSpace rest with
    | ']' :: rest => some ([item], rest)
    | ',' :: rest => (readItems fuel rest).map fun (items, rest) => (item :: items, rest)
    | _ => none

/-- One or more members up to the closing brace. -/
def readMembers : Nat → List Char → Option (List (Option String × Json) × List Char)
  | 0, _ => none
  | fuel + 1, s =>
    match skipSpace s with
    | '"' :: rest => do
      let (key, rest) ← readString rest
      match skipSpace rest with
      | ':' :: rest => do
        let (item, rest) ← readValue fuel rest
        match skipSpace rest with
        | '\x7d' :: rest => some ([(key, item)], rest)
        | ',' :: rest =>
          (readMembers fuel rest).map fun (members, rest) => ((key, item) :: members, rest)
        | _ => none
      | _ => none
    | _ => none

end

/-- Reads a whole text as one value; blanks may stand around it. -/
def ofText? (s : List Char) : Option Json :=
  match readValue (s.length + 1) s with
  | some (value, rest) => if (skipSpace rest).isEmpty then some value else none
  | none => none

end GridRecords.Json
