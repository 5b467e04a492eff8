/-!
# Searching text

A vendor's error message is read by the words it holds, in any case: the message is lowercased
in ASCII (`Text.asciiLower`: only `A` to `Z` change) and searched for the word
(`Text.mentions`). A word occurs in a text when it is a block of consecutive characters of it
(`Text.occursIn_iff`).
-/

namespace QueryRelay

namespace Text

/-- The characters of a string with `A` to `Z` lowercased and every other character kept. -/
def asciiLower (s : String) : List Char := s.toList.map Char.toLower

/-- Whether `pat` occurs in `cs` as a block of consecutive characters. -/
def occursIn (pat : List Char) : List Char → Bool
  | [] => pat.isEmpty
  | c :: rest => pat.isPrefixOf (c :: rest) || occursIn pat rest

/-- Whether a message, lowercased in ASCII, holds a word. -/
def mentions (msg word : String) : Bool := occursIn word.toList (asciiLower msg)

/-- A pattern occurs in a text exactly when it is an infix of it. -/
theorem occursIn_iff (pat cs : List Char) : occursIn pat cs = true ↔ pat <:+: cs := by
  induction cs with
  | nil =>
    simp only [occursIn, List.isEmpty_iff, List.infix_nil]
  | cons c rest ih =>
    simp only [occursIn, Bool.or_eq_true, List.isPrefixOf_iff_prefix, ih]
    exact ⟨fun h => h.elim List.IsPrefix.isInfix (List.infix_cons ·),
      fun h => (List.infix_cons_iff.1 h).imp_left id⟩

end Text

end QueryRelay
