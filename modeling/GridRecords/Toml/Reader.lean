/-
# Reading TOML text

A document is read line by line: headers open tables, and keys are bound in the table that was
opened last.  Values may nest.
-/
import GridRecords.Toml.Scalar

namespace GridRecords.Toml

/-! ## Values -/

/-- The text after a literal word. -/
def dropWord (word s : List Char) : Option (List Char) :=
  if word.isPrefixOf s then some (s.drop word.length) else none

mutual

/-- A value, nested values being allowed to a depth, and the text after it. -/
def readValue : Nat → Nat → List Char → Option (Toml × List Char)
  | 0, _, _ => none
  | _, _, [] => none
  | fuel + 1, depth, c :: rest =>
    if c = '"' ∨ c = '\'' then (readString (c :: rest)).map fun (s, rest) => (.string s, rest)
    else if c = '[' then
      match depth with
      | 0 => none
      | depth + 1 => (readItems fuel depth rest).map fun (items, rest) => (.array items, rest)
    else if c = '\x7b' then
      match depth with
      | 0 => none
      | depth + 1 =>
        match skipBlank rest with
        | '\x7d' :: rest => some (.table .inline [], rest)
        | _ => (readPairs fuel depth [] rest).map fun (entries, rest) =>
          (.table .inline entries, rest)
    else if c = 't' then
      (dropWord ['t', 'r', 'u', 'e'] (c :: rest)).map (.boolean true, ·)
    else if c = 'f' then
      (dropWord ['f', 'a', 'l', 's', 'e'] (c :: rest)).map (.boolean false, ·)
    else readScalar (c :: rest)

/-- The items of an array up to its closing bracket; a comma may follow the last one. -/
def readItems : Nat → Nat → List Char → Option (List Toml × List Char)
  | 0, _, _ => none
  | fuel + 1, depth, s =>
    match skipLines fuel s with
    | ']' :: rest => some ([], rest)
    | s => do
      let (item, rest) ← readValue fuel depth s
      match skipLines fuel rest with
      | ']' :: rest => some ([item], rest)
      | ',' :: rest => (readItems fuel depth rest).map fun (items, rest) => (item :: items, rest)
      | _ => none

/-- One or more pairs of a table between braces, up to the closing one. -/
def readPairs : Nat → Nat → Entries → List Char → Option (Entries × List Char)
  | 0, _, _, _ => none
  | fuel + 1, depth, entries, s => do
    let (path, key, rest) ← readKey maxDepth s
    match rest with
    | '=' :: rest => do
      let (value, rest) ← readValue fuel depth (skipBlank rest)
      let entries ← assign path key value entries
      match skipBlank rest with
      | '\x7d' :: rest => some (entries, rest)
      | ',' :: rest => readPairs fuel depth entries rest
      | _ => none
    | _ => none

end

/-! ## Documents -/

/-- A document that is being read. -/
structure Document where
  root : Entries
  /-- the path of the table that was opened last -/
  current : List String

namespace Document

/-- Nothing was read yet. -/
def empty : Document := ⟨[], []⟩

/-- Opens a table by `change`, which adds it to the document. -/
def enter (d : Document) (change : List String → String → Entries → Option Entries)
    (path : List String) (key : String) : Option Document := do
  some ⟨← change path key d.root, path ++ [key]⟩

/-- Binds a key in the table that was opened last. -/
def assign (d : Document) (path : List String) (key : String) (value : Toml) :
    Option Document := do
  let root ← descend false (fun _ entries => Toml.assign path key value entries) .header
    d.current d.root
  some { d with root }

/-- Reads the lines of a document. -/
def readLines : Nat → Document → List Char → Option Document
  | 0, _, _ => none
  | fuel + 1, d, s =>
    match skipBlank s with
    | [] => some d
    | s@('#' :: _) | s@('\n' :: _) | s@('\r' :: _) => do readLines fuel d (← endLine? s)
    | '[' :: '[' :: s => do
      match ← readKey maxDepth s with
      | (path, key, ']' :: ']' :: rest) => do
        readLines fuel (← d.enter openElement path key) (← endLine? rest)
      | _ => none
    | '[' :: s => do
      match ← readKey maxDepth s with
      | (path, key, ']' :: rest) => do
        readLines fuel (← d.enter openTable path key) (← endLine? rest)
      | _ => none
    | s => do
      match ← readKey maxDepth s with
      | (path, key, '=' :: rest) => do
        let (value, rest) ← readValue (rest.length + 1) maxDepth (skipBlank rest)
        readLines fuel (← d.assign path key value) (← endLine? rest)
      | _ => none

end Document

/-- Reads a whole document; a byte order mark may stand before it. -/
def ofText? (s : List Char) : Option Entries :=
  let s := match s with
    | '\uFEFF' :: rest => rest
    | s => s
  (Document.readLines (s.length + 1) .empty s).map (·.root)

end GridRecords.Toml
