/-
# Blank characters and trimming

Record fields are read with the blank characters around them removed.  Blank is the
Unicode property `White_Space`, so the no-break space and the ideographic space count,
the zero-width space and the byte-order mark do not.

The main fact is `trim_sublist`: what `trim` leaves stands in the text, in order.
-/

namespace GridRecords.Text

/-- The Unicode property `White_Space`. -/
def isBlank (c : Char) : Bool :=
  let n := c.toNat
  (0x9 ≤ n && n ≤ 0xD) || n == 0x20 || n == 0x85 || n == 0xA0 || n == 0x1680
    || (0x2000 ≤ n && n ≤ 0x200A) || n == 0x2028 || n == 0x2029 || n == 0x202F
    || n == 0x205F || n == 0x3000

/-! ## Trimming -/

/-- The text from its first character that is not blank. -/
def trimStart (s : List Char) : List Char := s.dropWhile isBlank

/-- The text up to its last character that is not blank. -/
def trimEnd (s : List Char) : List Char := (s.reverse.dropWhile isBlank).reverse

/-- The text without the blank characters at its two ends. -/
def trim (s : List Char) : List Char := trimEnd (trimStart s)

/-- A string without the blank characters at its two ends. -/
def trimmed (s : String) : String := String.ofList (trim s.toList)

/-- What is left after trimming stands in the text, in order. -/
theorem trim_sublist (s : List Char) : (trim s).Sublist s := by
  have h (t : List Char) : (trimEnd t).Sublist t := by
    have := (List.dropWhile_sublist (l := t.reverse) isBlank).reverse
    simpa [trimEnd] using this
  exact (h _).trans (List.dropWhile_sublist isBlank)

end GridRecords.Text
