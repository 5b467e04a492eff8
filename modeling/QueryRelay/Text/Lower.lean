import QueryRelay.Text.LowerTable
import QueryRelay.Text.Cased

/-!
# Lowercasing a string

Each character takes its full lowercase form: the simple mapping of `lowerRuns`, except that
U+0130 (capital I with dot above) becomes the two characters `i` U+0307, and that the capital
sigma Σ becomes the final form ς exactly when it ends a word and σ otherwise.

Σ ends a word when, skipping Case_Ignorable characters, the nearest character before it is
Cased, and the nearest one after it (skipping the same way) is not Cased or does not exist.
This is the only context-dependent mapping that holds in every language, so it is the only one
here.
-/

namespace QueryRelay

namespace Text

/-- Whether the first character that is not Case_Ignorable is Cased. -/
def casedAfterIgnorable (cs : List Char) : Bool :=
  match cs.dropWhile isCaseIgnorable with
  | c :: _ => isCasedLetter c
  | [] => false

/-- Whether a capital sigma with these neighbours (the ones before it nearest first) ends a
word. -/
def endsWord (before after : List Char) : Bool :=
  casedAfterIgnorable before && !casedAfterIgnorable after

/-- The full lowercase form of a character list, given the characters before it (nearest first). -/
def lowerFrom (before : List Char) : List Char → List Char
  | [] => []
  | c :: after =>
    let lowered :=
      if c.toNat = 0x3A3 then [if endsWord before after then Char.ofNat 0x3C2 else Char.ofNat 0x3C3]
      else if c.toNat = 0x130 then ['i', Char.ofNat 0x307]
      else [lowerSimple c]
    lowered ++ lowerFrom (c :: before) after

/-- The full lowercase form of a string. -/
def toLower (s : String) : String := String.ofList (lowerFrom [] s.toList)

end Text

end QueryRelay
