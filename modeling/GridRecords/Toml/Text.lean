/-
# Blanks, strings and keys of TOML text

The parts of TOML text that do not nest.  Each reader takes the text and gives what it read with
the text after it.
-/
import GridRecords.Text.Digit

namespace GridRecords.Toml

open Text

/-! ## Blanks and comments -/

/-- The blanks inside a line. -/
def isBlank (c : Char) : Bool := c == ' ' || c == '\t'

/-- The text from its first character that is no blank. -/
def skipBlank (s : List Char) : List Char := s.dropWhile isBlank

/-- Whether a character may stand in a comment: all but control characters. -/
def isPlain (c : Char) : Bool :=
  c == '\t' || (0x20 ≤ c.toNat && c.toNat ≤ 0x7E) || 0x80 ≤ c.toNat

/-- The text after the end of a line, which needs none of its own at the end of the text. -/
def dropLineEnd? : List Char → Option (List Char)
  | [] => some []
  | '\n' :: rest => some rest
  | '\r' :: '\n' :: rest => some rest
  | _ => none

/-- The text after an optional comment. -/
def skipComment : List Char → List Char
  | '#' :: rest => rest.dropWhile isPlain
  | s => s

/-- The text after the rest of a line, which may hold blanks and a comment. -/
def endLine? (s : List Char) : Option (List Char) := dropLineEnd? (skipComment (skipBlank s))

/-- The text after blanks, comments and ends of lines. -/
def skipLines : Nat → List Char → List Char
  | 0, s => s
  | fuel + 1, s =>
    match skipBlank s with
    | s@('#' :: _) | s@('\n' :: _) | s@('\r' :: _) =>
      match endLine? s with
      | some rest => skipLines fuel rest
      | none => s
    | s => s

/-! ## Strings -/

/-- The character a one-letter escape stands for. -/
def escaped? : Char → Option Char
  | '"' => some '"'
  | '\\' => some '\\'
  | 'b' => some '\x08'
  | 'f' => some '\x0c'
  | 'n' => some '\n'
  | 'r' => some '\r'
  | 't' => some '\t'
  | _ => none

/-- The character of a code point that is no surrogate. -/
def scalar? (n : Nat) : Option Char := if n.isValidChar then some (Char.ofNat n) else none

/-- The character whose code point some hexadecimal digits give. -/
def hexScalar? (digits : List Char) : Option Char := do
  scalar? ((← digits.mapM hexValue?).foldl (fun n d => 16 * n + d) 0)

/-- The character an escape stands for, after its backslash. -/
def readEscape : List Char → Option (Char × List Char)
  | 'u' :: rest => do
    if rest.length < 4 then none else some (← hexScalar? (rest.take 4), rest.drop 4)
  | 'U' :: rest => do
    if rest.length < 8 then none else some (← hexScalar? (rest.take 8), rest.drop 8)
  | c :: rest => (escaped? c).map (·, rest)
  | [] => none

/-- The inside of a string on one line, with escapes, up to its closing quote. -/
def readBasic : Nat → List Char → Option (List Char × List Char)
  | 0, _ => none
  | _, [] => none
  | fuel + 1, c :: rest =>
    if c = '"' then some ([], rest)
    else if c = '\\' then do
      let (c, rest) ← readEscape rest
      let (cs, rest) ← readBasic fuel rest
      some (c :: cs, rest)
    else if isPlain c then do
      let (cs, rest) ← readBasic fuel rest
      some (c :: cs, rest)
    else none

/-- The inside of a string on one line, without escapes, up to its closing apostrophe. -/
def readLiteral : List Char → Option (List Char × List Char)
  | [] => none
  | c :: rest =>
    if c = '\'' then some ([], rest)
    else if isPlain c then do
      let (cs, rest) ← readLiteral rest
      some (c :: cs, rest)
    else none

/-- What three closing quotes leave of a run of quotes: up to two belong to the string. -/
def closing (quote : Char) (s : List Char) : List Char × List Char :=
  let extra := (s.takeWhile (· == quote)).length.min 2
  (s.take extra, s.drop extra)

/-- The blanks and ends of lines that follow an escaped end of a line. -/
def skipIndent : Nat → List Char → List Char
  | 0, s => s
  | fuel + 1, s =>
    match skipBlank s with
    | '\n' :: rest | '\r' :: '\n' :: rest => skipIndent fuel rest
    | s => s

/-- The inside of a string of several lines, up to its three closing quotes.  With escapes, a
backslash at the end of a line joins the lines. -/
def readMultiline (quote : Char) (escapes : Bool) : Nat → List Char →
    Option (List Char × List Char)
  | 0, _ => none
  | _, [] => none
  | fuel + 1, c :: rest =>
    let more (c : Char) (rest : List Char) : Option (List Char × List Char) := do
      let (cs, rest) ← readMultiline quote escapes fuel rest
      some (c :: cs, rest)
    if c = quote then
      match rest with
      | d :: e :: rest' =>
        if d = quote ∧ e = quote then some (closing quote rest') else more c rest
      | _ => none
    else if c = '\\' ∧ escapes then
      match skipBlank rest with
      | '\n' :: rest | '\r' :: '\n' :: rest =>
        readMultiline quote escapes fuel (skipIndent fuel rest)
      | _ => do
        let (c, rest) ← readEscape rest
        more c rest
    else if c = '\n' then more c rest
    else if c = '\r' then
      match rest with
      | '\n' :: rest => more '\n' rest
      | _ => none
    else if isPlain c then more c rest
    else none

/-- The text after an end of line right behind the opening quotes. -/
def skipFirstLineEnd : List Char → List Char
  | '\n' :: rest => rest
  | '\r' :: '\n' :: rest => rest
  | s => s

/-- A string of any form. -/
def readString (s : List Char) : Option (String × List Char) :=
  let found : Option (List Char × List Char) := match s with
    | '"' :: '"' :: '"' :: rest => readMultiline '"' true s.length (skipFirstLineEnd rest)
    | '"' :: rest => readBasic s.length rest
    | '\'' :: '\'' :: '\'' :: rest =>
      readMultiline '\'' false s.length (skipFirstLineEnd rest)
    | '\'' :: rest => readLiteral rest
    | _ => none
  found.map fun (cs, rest) => (String.ofList cs, rest)

/-! ## Keys -/

/-- Whether a character may stand in a key without quotes. -/
def isBare (c : Char) : Bool :=
  isDigit c || ('a' ≤ c && c ≤ 'z') || ('A' ≤ c && c ≤ 'Z') || c == '_' || c == '-'

/-- One part of a key. -/
def readPart (s : List Char) : Option (String × List Char) :=
  match s with
  | '"' :: rest => (readBasic s.length rest).map fun (cs, rest) => (String.ofList cs, rest)
  | '\'' :: rest => (readLiteral rest).map fun (cs, rest) => (String.ofList cs, rest)
  | _ =>
    match s.takeWhile isBare with
    | [] => none
    | cs => some (String.ofList cs, s.dropWhile isBare)

/-- Greatest number of parts of a key, and of values nested in each other. -/
def maxDepth : Nat := 79

/-- A key of at most so many parts, with the blanks around them: the path to its table, its last
part and the text after it. -/
def readKey : Nat → List Char → Option (List String × String × List Char)
  | 0, _ => none
  | parts + 1, s => do
    let (part, rest) ← readPart (skipBlank s)
    match skipBlank rest with
    | '.' :: rest => do
      let (path, key, rest) ← readKey parts rest
      some (part :: path, key, rest)
    | rest => some ([], part, rest)

end GridRecords.Toml
