/-
# Identifiers of 128 bits

A uuid is written as thirty-two hexadecimal digits in groups of 8, 4, 4, 4 and 12, with hyphens
between them.  `ofHyphenated?` reads that form only; `read` also takes the digits without
hyphens, the form between braces and the form after `urn:uuid:`, and gives the reason when a
text is refused.
-/
import GridRecords.Text.Digit

namespace GridRecords

open Text

-- zero is that of the core library, whatever else is imported beside this module
attribute [local instance (2000)] Zero.ofOfNat0

/-- An identifier of 128 bits. -/
structure Uuid where
  bits : BitVec 128
deriving DecidableEq, Hashable, Repr

/-- Why a text is no uuid.  Positions and lengths count bytes. -/
inductive UuidFault where
  | length (found : Nat)
  | character (c : Char) (position : Nat)
  | groupCount (found : Nat)
  | groupLength (group expected found : Nat)
deriving DecidableEq, Repr

/-- Wording of a uuid fault. -/
def UuidFault.message : UuidFault → String
  | .length found => s!"invalid length: found {found}"
  | .character c position =>
    "invalid character: found " ++ String.ofList ['\x60', c, '\x60'] ++ s!" at {position}"
  | .groupCount found => s!"invalid group count: expected 5, found {found}"
  | .groupLength group expected found =>
    s!"invalid group length in group {group}: expected {expected}, found {found}"

namespace Uuid

/-- Lengths of the groups of digits. -/
def groups : List Nat := [8, 4, 4, 4, 12]

/-! ## Writing -/

/-- The thirty-two hexadecimal digits. -/
def digits (u : Uuid) : List Char :=
  let hex := hexadecimal u.bits.toNat
  List.replicate (32 - hex.length) '0' ++ hex

/-- Digits in groups of the given lengths, with hyphens between them. -/
def hyphenate : List Nat → List Char → List Char
  | [], s => s
  | [_], s => s
  | n :: more, s => s.take n ++ '-' :: hyphenate more (s.drop n)

/-- The hyphenated form in lower case. -/
def text (u : Uuid) : String := String.ofList (hyphenate groups u.digits)

/-! ## Reading -/

/-- The uuid of thirty-two hexadecimal digits. -/
def ofDigits? (s : List Char) : Option Uuid :=
  if s.length = 32 then
    (s.mapM hexValue?).map fun values => ⟨BitVec.ofNat 128 (values.foldl (16 * · + ·) 0)⟩
  else none

/-- Takes the hyphens out of groups of the given lengths. -/
def joinGroups? : List Nat → List Char → Option (List Char)
  | [], s => if s.isEmpty then some [] else none
  | [n], s => if s.length = n then some s else none
  | n :: more, s =>
    match s.drop n with
    | '-' :: rest => (joinGroups? more rest).map (s.take n ++ ·)
    | _ => none

/-- The uuid of a hyphenated text. -/
def ofHyphenated? (s : List Char) : Option Uuid := (joinGroups? groups s).bind ofDigits?

/-- Length of a text in bytes. -/
def byteLength (s : List Char) : Nat := (s.map Char.utf8Size).sum

/-- The text after `urn:uuid:`, whose letters may be of either case. -/
def dropUrn? (s : List Char) : Option (List Char) :=
  let lead := "urn:uuid:".toList
  if (s.take lead.length).map Char.toLower = lead then some (s.drop lead.length) else none

/-- The text between braces. -/
def dropBraces? : List Char → Option (List Char)
  | '\x7b' :: rest => if rest.getLast? = some '\x7d' then some rest.dropLast else none
  | _ => none

/-- Positions of the hyphens, the first character at `position`; any other character must be a
hexadecimal digit.  `offset` is added to the position of a character that is refused. -/
def hyphens (offset : Nat) : Nat → List Char → Except UuidFault (List Nat)
  | _, [] => .ok []
  | position, c :: rest =>
    if c = '-' then (hyphens offset (position + 1) rest).map (position :: ·)
    else if (hexValue? c).isSome then hyphens offset (position + 1) rest
    else .error (.character c (offset + position))

/-- The first group that does not have its length, given the positions of four hyphens in a
text of `length` bytes. -/
def oddGroup (length : Nat) : Nat → Nat → List Nat → List Nat → UuidFault
  | group, start, n :: more, position :: rest =>
    if position = start + n then oddGroup length (group + 1) (position + 1) more rest
    else .groupLength group n (position - start)
  | group, start, n :: _, [] => .groupLength group n (length - start)
  | group, start, [], _ => .groupLength group 0 (length - start)

/-- Why a text is refused.  `wrapped` holds when the text stands for hyphenated digits only;
the scanned part starts `offset` bytes into a text of `length` bytes. -/
def faultOf (length offset : Nat) (wrapped : Bool) (scanned : List Char) : UuidFault :=
  match hyphens offset 0 scanned with
  | .error fault => fault
  | .ok [] => if wrapped then .groupCount 1 else .length length
  | .ok found =>
    if found.length = 4 then oddGroup length 0 0 groups found else .groupCount (found.length + 1)

/-- Why a text that has none of the lengths of a uuid, or not its digits, is refused. -/
def faultOfText (s : List Char) : UuidFault :=
  let length := byteLength s
  if length = 0 ∨ 45 < length then .length length
  else match dropBraces? s, dropUrn? s with
    | some inner, _ => faultOf length 1 true inner
    | none, some inner => faultOf length 9 true inner
    | none, none => faultOf length 0 false s

/-- Reads thirty-six bytes, which must be the hyphenated form. -/
def readHyphenated (s : List Char) : Except UuidFault Uuid :=
  match ofHyphenated? s with
  | some u => .ok u
  | none => .error (faultOf (byteLength s) 0 true s)

/-- Reads a uuid in any of its forms. -/
def read (text : String) : Except UuidFault Uuid :=
  let s := text.toList
  match byteLength s, dropBraces? s, dropUrn? s with
  | 36, _, _ => readHyphenated s
  | 38, some inner, _ => readHyphenated inner
  | 45, _, some inner => readHyphenated inner
  | _, _, _ =>
    match ofDigits? s with
    | some u => .ok u
    | none => .error (faultOfText s)

end Uuid

end GridRecords
