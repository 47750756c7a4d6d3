/-
# Lower-casing

Field names are compared in lower case.  A name is lower-cased character by character with
the full Unicode mapping; only the capital sigma looks at its neighbours: it becomes the
final sigma after a cased letter and before none.
-/
import GridRecords.Text.CaseTable

namespace GridRecords.Text

/-- Looks a code point up in the runs of a case mapping. -/
def shiftOf (runs : List (Nat × Nat × Nat × Int)) (n : Nat) : Int :=
  match runs.find? fun (first, last, _, _) => first ≤ n && n ≤ last with
  | some (first, _, step, shift) => if (n - first) % step = 0 then shift else 0
  | none => 0

/-- The lower-case form of one character on its own.  Only the capital I with a dot above
takes two characters. -/
def lowerChar (c : Char) : List Char :=
  if c.toNat < 0x80 then [c.toLower]
  else if c.toNat = 0x130 then ['i', Char.ofNat 0x307]
  else [Char.ofNat (c.toNat + shiftOf lowerRuns c.toNat).toNat]

/-- Whether the first character that is not case-ignorable is a cased letter. -/
def meetsCased : List Char → Bool
  | [] => false
  | c :: rest =>
    if caseIgnorable.contains c.toNat then meetsCased rest else casedLetters.contains c.toNat

/-- The lower-case form of a text whose characters before it are `before`, nearest first. -/
def lowerAfter (before : List Char) : List Char → List Char
  | [] => []
  | c :: rest =>
    (if c = 'Σ' then [if meetsCased before && !meetsCased rest then 'ς' else 'σ']
      else lowerChar c) ++ lowerAfter (c :: before) rest

/-- The lower-case form of a string. -/
def lowercase (s : String) : String := String.ofList (lowerAfter [] s.toList)

end GridRecords.Text
