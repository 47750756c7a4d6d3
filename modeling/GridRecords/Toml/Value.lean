/-
# Values of TOML text

A TOML document is a table.  A table remembers how it came about, since that decides what later
lines may add to it: a table under a header may be opened once, one that dotted keys made may
only grow by dotted keys, and one between braces is complete.

The main function is `Toml.descend`, which changes the table at the end of a path and makes the
tables on the way that are not there yet.
-/

namespace GridRecords

/-- How a table came about. -/
inductive TableForm where
  /-- between braces -/
  | inline
  /-- on the way to the table of a header -/
  | implied
  /-- on the way of a dotted key -/
  | dotted
  /-- under a header of its own -/
  | header
deriving DecidableEq, Repr

/-- A value of TOML text.  Numbers with a fraction and points in time keep no more than what they
are, since no setting is one. -/
inductive Toml where
  | string (s : String)
  | integer (n : Int)
  | float
  | boolean (b : Bool)
  | moment
  | array (items : List Toml)
  | table (form : TableForm) (entries : List (String × Toml))
  /-- tables under headers that repeat -/
  | tables (elements : List (List (String × Toml)))

namespace Toml

/-- Keys bound to values. -/
abbrev Entries := List (String × Toml)

/-- Whether tables of a form may not be extended by a path, which comes from a dotted key or from a
header. -/
def isClosed (byDottedKey : Bool) : TableForm → Bool
  | .inline => true
  | .implied | .dotted => false
  | .header => byDottedKey

/-- Changes what a key is bound to. -/
def rebind (key : String) (value : Toml) (entries : Entries) : Entries :=
  entries.map fun (k, v) => if k = key then (k, value) else (k, v)

/-- Changes the table at the end of a path, `form` being the form of the table at its start. -/
def descend (byDottedKey : Bool) (change : TableForm → Entries → Option Entries) :
    TableForm → List String → Entries → Option Entries
  | form, [], entries => change form entries
  | _, key :: path, entries =>
    match entries.lookup key with
    | none => do
      let form := if byDottedKey then .dotted else .implied
      let inner ← descend byDottedKey change form path []
      some (entries ++ [(key, .table form inner)])
    | some (.table form inner) =>
      if isClosed byDottedKey form then none
      else do
        let inner ← descend byDottedKey change form path inner
        some (rebind key (.table form inner) entries)
    | some (.tables elements) => do
      let inner ← descend byDottedKey change .header path (← elements.getLast?)
      some (rebind key (.tables (elements.dropLast ++ [inner])) entries)
    | some _ => none

/-- Binds a new key. -/
def bind (key : String) (value : Toml) (entries : Entries) : Option Entries :=
  if (entries.lookup key).isSome then none else some (entries ++ [(key, value)])

/-- Binds a dotted key.  A dotted key only adds to tables that dotted keys made. -/
def assign (path : List String) (key : String) (value : Toml) (entries : Entries) :
    Option Entries :=
  descend true (fun form inner =>
    if path ≠ [] ∧ form ≠ .dotted then none else bind key value inner) .header path entries

/-- Opens the table of a header. -/
def openTable (path : List String) (key : String) (entries : Entries) : Option Entries :=
  descend false (fun _ inner =>
    match inner.lookup key with
    | none => some (inner ++ [(key, .table .header [])])
    | some (.table .implied old) => some (rebind key (.table .header old) inner)
    | some _ => none) .header path entries

/-- Opens the next table of a header that repeats. -/
def openElement (path : List String) (key : String) (entries : Entries) : Option Entries :=
  descend false (fun _ inner =>
    match inner.lookup key with
    | none => some (inner ++ [(key, .tables [[]])])
    | some (.tables elements) => some (rebind key (.tables (elements ++ [[]])) inner)
    | some _ => none) .header path entries

end Toml

end GridRecords
