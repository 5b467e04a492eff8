/-!
# Blank characters and trimming

A character is blank when it has the Unicode property White_Space: the ASCII controls
U+0009 to U+000D, the space, U+0085, the no-break space U+00A0, U+1680, the spaces U+2000 to
U+200A, the line and paragraph separators U+2028 and U+2029, U+202F, U+205F and the
ideographic space U+3000. Zero-width characters such as U+200B and U+FEFF are not blank.

Names and queries are trimmed of blanks at both ends, and a query made only of blanks is empty.
-/

namespace QueryRelay

namespace Text

/-- The Unicode White_Space property. -/
def isBlank (c : Char) : Bool :=
  let n := c.toNat
  (0x9 ≤ n && n ≤ 0xD) || n == 0x20 || n == 0x85 || n == 0xA0 || n == 0x1680 ||
    (0x2000 ≤ n && n ≤ 0x200A) || n == 0x2028 || n == 0x2029 || n == 0x202F ||
    n == 0x205F || n == 0x3000

/-- The characters of a string without blanks at either end. -/
def trimChars (cs : List Char) : List Char :=
  ((cs.dropWhile isBlank).reverse.dropWhile isBlank).reverse

/-- A string without blanks at either end. -/
def trim (s : String) : String := String.ofList (trimChars s.toList)

/-- Whether a string has no character other than blanks. -/
def isBlankText (s : String) : Bool := s.toList.all isBlank

theorem trimChars_nil : trimChars [] = [] := rfl

/-- The ASCII blanks are blank. -/
theorem isBlank_of_ascii {c : Char} (h : c = ' ' ∨ c = '\t' ∨ c = '\n' ∨ c = '\r') :
    isBlank c = true := by
  rcases h with h | h | h | h <;> subst h <;> decide

end Text

end QueryRelay
