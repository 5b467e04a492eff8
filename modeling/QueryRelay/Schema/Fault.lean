import QueryRelay.Json.Write

/-!
# Why a JSON value does not fit a type

Reading a typed value out of JSON (`Schema.Decoder`) fails for a handful of reasons, and each is
reported in one fixed sentence shape:

* `invalid type: <found>, expected <wanted>` — the value has the wrong shape;
* `invalid value: <found>, expected <wanted>` — the shape is right, the value is not
  (a negative or too large integer for an unsigned field);
* `invalid length <n>, expected <wanted>` — an array that is too short or too long;
* ``unknown variant `v`, expected one of `a`, `b` `` — a name that no alternative has;
* ``missing field `f` `` and ``duplicate field `f` ``.

`Found` is what the value was, written the way a diagnostic shows it: a string between quotes
with its special characters escaped (`Found.describe`), a float with the fewest digits that
read back and a kept `.0`.
-/

namespace QueryRelay

namespace Schema

/-- Whether a character is shown escaped inside a quoted string of a diagnostic: the control
characters, the invisible formatting characters, and the combining marks (which would
otherwise attach to the character before them). -/
def isHiddenChar (c : Char) : Bool :=
  let n := c.toNat
  n < 0x20 || (0x7F ≤ n && n ≤ 0x9F) || n == 0xAD || (0x300 ≤ n && n ≤ 0x36F) ||
  (0x200B ≤ n && n ≤ 0x200F) || (0x2028 ≤ n && n ≤ 0x202E) || (0x2060 ≤ n && n ≤ 0x2064) ||
  n == 0xFEFF

/-- Lowercase hexadecimal digits of a number, without leading zeros. -/
def hexDigits (n : Nat) : String :=
  String.ofList ((Nat.toDigits 16 n))

/-- One character inside a quoted string of a diagnostic. -/
def showChar (c : Char) : String :=
  if c = '"' then "\\\""
  else if c = '\\' then "\\\\"
  else if c = '\n' then "\\n"
  else if c = '\r' then "\\r"
  else if c = '\t' then "\\t"
  else if c.toNat = 0 then "\\0"
  else if isHiddenChar c then "\\u\x7b" ++ hexDigits c.toNat ++ "\x7d"
  else String.singleton c

/-- A string between double quotes as a diagnostic shows it. -/
def showString (s : String) : String :=
  "\"" ++ String.join (s.toList.map showChar) ++ "\""

/-- What a value turned out to be. -/
inductive Found where
  | null
  | bool (b : Bool)
  | unsigned (n : Nat)
  | signed (n : Int)
  | float (x : Float)
  | str (s : String)
  | unit
  | seq
  | map
  deriving Inhabited

namespace Found

/-- The shape of a JSON value. -/
def ofJson : Json → Found
  | .null => null
  | .bool b => bool b
  | .num (.unsigned n) => unsigned n
  | .num (.negative n) => signed n
  | .num (.double x) => float x
  | .str s => str s
  | .arr _ => seq
  | .obj _ => map

/-- How a diagnostic names what was found. -/
def describe : Found → String
  | null => "null"
  | bool b => s!"boolean `{b}`"
  | unsigned n => s!"integer `{n}`"
  | signed n => s!"integer `{n}`"
  | float x => "floating point `" ++ (Json.floatLayout.writeFloat x).getD "NaN" ++ "`"
  | str s => "string " ++ showString s
  | unit => "unit value"
  | seq => "sequence"
  | map => "map"

end Found

/-- Why a value does not fit. -/
inductive DecodeError where
  | invalidType (found : Found) (expected : String)
  | invalidValue (found : Found) (expected : String)
  | invalidLength (length : Nat) (expected : String)
  | unknownVariant (name : String) (expected : List String)
  | missingField (name : String)
  | duplicateField (name : String)
  /-- A reason given by the reader of one particular type. -/
  | custom (message : String)
  deriving Inhabited

/-- A name between backticks. -/
def ticked (s : String) : String := "`" ++ s ++ "`"

/-- The list of names a diagnostic offers instead of an unknown one. -/
def expectedNames : List String → String
  | [] => "there are no variants"
  | [a] => "expected " ++ ticked a
  | names => "expected one of " ++ ", ".intercalate (names.map ticked)

/-- The text of a decoding failure. -/
def DecodeError.message : DecodeError → String
  | .invalidType f e => s!"invalid type: {f.describe}, expected {e}"
  | .invalidValue f e => s!"invalid value: {f.describe}, expected {e}"
  | .invalidLength n e => s!"invalid length {n}, expected {e}"
  | .unknownVariant v names => s!"unknown variant {ticked v}, {expectedNames names}"
  | .missingField f => s!"missing field {ticked f}"
  | .duplicateField f => s!"duplicate field {ticked f}"
  | .custom m => m

end Schema

end QueryRelay
