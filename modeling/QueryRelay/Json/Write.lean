import QueryRelay.Json.Value
import QueryRelay.Decimal.Shortest

/-!
# Writing JSON text

Values are written compactly: no blanks, fields in the order the object holds them (which is
key order, see `Json`).

* A string is written between quotes with only `"`, `\` and the control characters below
  U+0020 escaped: `\n \r \t \b \f` by letter, the others as `\u00XX` with lowercase hex digits.
  Every other character, U+007F and all non-ASCII ones included, is written as itself.
* An integer is written in decimal. A double is written with the fewest digits that read back
  (`Decimal.Layout`), positionally when its leading digit has a decimal exponent from `-5` to
  `15` (an integral value keeps `.0`), and as `d.ddde±x` otherwise; an infinity or NaN is
  written `null`.
-/

namespace QueryRelay

namespace Json

/-- How doubles are written in JSON text. -/
def floatLayout : Decimal.Layout := ⟨-5, 15, true⟩

/-- Two lowercase hexadecimal digits. -/
def hex2 (n : Nat) : String :=
  let digit (d : Nat) : Char := if d < 10 then Char.ofNat (48 + d) else Char.ofNat (87 + d)
  String.ofList [digit (n / 16 % 16), digit (n % 16)]

/-- The escaped form of one character inside a string. -/
def escapeChar (c : Char) : String :=
  if c = '"' then "\\\""
  else if c = '\\' then "\\\\"
  else if c = '\n' then "\\n"
  else if c = '\r' then "\\r"
  else if c = '\t' then "\\t"
  else if c.toNat = 8 then "\\b"
  else if c.toNat = 12 then "\\f"
  else if c.toNat < 0x20 then "\\u00" ++ hex2 c.toNat
  else String.singleton c

/-- The characters of a string literal between its quotes. -/
def escapeBody (s : String) : String :=
  s.toList.foldl (fun acc c => acc ++ escapeChar c) ""

/-- A string literal. -/
def quote (s : String) : String := "\"" ++ escapeBody s ++ "\""

/-- The text of a number. -/
def Number.render : Number → String
  | .unsigned n => toString n
  | .negative n => toString n
  | .double x => (floatLayout.writeFloat x).getD "null"

mutual

/-- The compact text of a value. -/
def render : Json → String
  | .null => "null"
  | .bool true => "true"
  | .bool false => "false"
  | .num n => Number.render n
  | .str s => quote s
  | .arr items => "[" ++ renderItems items ++ "]"
  | .obj fields => "\x7b" ++ renderFields fields ++ "\x7d"

/-- Array items separated by commas. -/
def renderItems : List Json → String
  | [] => ""
  | [v] => render v
  | v :: rest => render v ++ "," ++ renderItems rest

/-- Object fields separated by commas. -/
def renderFields : List (String × Json) → String
  | [] => ""
  | [(k, v)] => quote k ++ ":" ++ render v
  | (k, v) :: rest => quote k ++ ":" ++ render v ++ "," ++ renderFields rest

end

end Json

end QueryRelay
