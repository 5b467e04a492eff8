import QueryRelay.Json.Value
import QueryRelay.Decimal.Binary64

/-!
# Reading JSON text

The reader accepts RFC 8259 JSON and reports the first fault with the byte position where it
was noticed, as `line` and `column` (the column counts bytes from the start of the line).

## Numbers

A number keeps the class of its literal (see `Number`):

* an integer literal that fits 64 unsigned bits is `unsigned`;
* a negative integer literal that fits 64 signed bits is `negative`; `-0` is the double `-0.0`;
* everything else is a `double`, computed from a significand of at most 64 bits and a decimal
  exponent by one multiplication or division with a correctly rounded power of ten
  (`fromParts`). Digits that do not fit the significand move into the exponent (integer part)
  or are dropped (fraction part). A result that overflows is the fault `numberOutOfRange`.

## Where a fault is reported

Two positions are in use: the byte just consumed (`here`) and the byte about to be read
(`ahead`, capped at the end of the input). Which one a fault uses is part of its message, so
each fault site below says which it takes. A fault noticed on a byte that the reader then steps
over stands one byte on, which is `ahead` too: positions count bytes, so a wrong character
that takes several bytes still moves the position by one.

## Termination

Every value consumes at least one byte, so the nesting recursion runs on a fuel equal to the
input length plus one; `Json.read` supplies it and `outOfFuel` is unreachable for that fuel.
Containers nest at most 127 deep: the 128th opening bracket is the fault `recursionLimit`.
-/

namespace QueryRelay

namespace Json

/-- What can be wrong with a JSON text. -/
inductive ReadFault where
  | eofValue
  | eofList
  | eofObject
  | eofString
  | expectedColon
  | expectedListCommaOrEnd
  | expectedObjectCommaOrEnd
  | expectedIdent
  | expectedValue
  | invalidEscape
  | invalidNumber
  | numberOutOfRange
  | controlCharacter
  | keyMustBeString
  | loneSurrogate
  | trailingComma
  | trailingCharacters
  | unexpectedEndOfHexEscape
  | recursionLimit
  | outOfFuel
  deriving DecidableEq, Repr

/-- The text of a fault. -/
def ReadFault.message : ReadFault → String
  | .eofValue => "EOF while parsing a value"
  | .eofList => "EOF while parsing a list"
  | .eofObject => "EOF while parsing an object"
  | .eofString => "EOF while parsing a string"
  | .expectedColon => "expected `:`"
  | .expectedListCommaOrEnd => "expected `,` or `]`"
  | .expectedObjectCommaOrEnd => "expected `,` or `\x7d`"
  | .expectedIdent => "expected ident"
  | .expectedValue => "expected value"
  | .invalidEscape => "invalid escape"
  | .invalidNumber => "invalid number"
  | .numberOutOfRange => "number out of range"
  | .controlCharacter => "control character (\\u0000-\\u001F) found while parsing a string"
  | .keyMustBeString => "key must be a string"
  | .loneSurrogate => "lone leading surrogate in hex escape"
  | .trailingComma => "trailing comma"
  | .trailingCharacters => "trailing characters"
  | .unexpectedEndOfHexEscape => "unexpected end of hex escape"
  | .recursionLimit => "recursion limit exceeded"
  | .outOfFuel => "input nested too deeply"

/-- A fault and the byte offset whose line and column it reports. -/
structure ReadError where
  fault : ReadFault
  offset : Nat

/-- The unread part of the input: characters and the byte offset of the first of them. -/
structure Cursor where
  rest : List Char
  offset : Nat
  /-- Byte length of the whole input. -/
  total : Nat

namespace Cursor

/-- The next character, if any. -/
def peek? (c : Cursor) : Option Char := c.rest.head?

/-- Consume one character. -/
def advance (c : Cursor) : Cursor :=
  match c.rest with
  | [] => c
  | ch :: rest => { c with rest := rest, offset := c.offset + ch.utf8Size }

/-- A fault at the byte just consumed. -/
def here (c : Cursor) (f : ReadFault) : ReadError := ⟨f, c.offset⟩

/-- A fault at the byte about to be read. -/
def ahead (c : Cursor) (f : ReadFault) : ReadError := ⟨f, min c.total (c.offset + 1)⟩

set_option linter.unusedVariables false in
/-- Skip spaces, tabs, line feeds and carriage returns. -/
def skipBlank (c : Cursor) : Cursor :=
  match h : c.rest with
  | ch :: rest =>
    if ch = ' ' ∨ ch = '\n' ∨ ch = '\t' ∨ ch = '\r' then
      skipBlank { c with rest := rest, offset := c.offset + 1 }
    else c
  | [] => c
termination_by c.rest.length
decreasing_by simp [h]

/-- Consuming the head character leaves the tail. -/
theorem advance_rest {c : Cursor} {ch : Char} {r : List Char} (h : c.rest = ch :: r) :
    c.advance.rest = r := by
  simp [advance, h]

/-- Consuming a character shortens what is left. -/
theorem advance_lt {c : Cursor} {ch : Char} {r : List Char} (h : c.rest = ch :: r) :
    c.advance.rest.length < c.rest.length := by
  simp [advance_rest h, h]

set_option linter.unusedVariables false in
/-- Skip decimal digits. -/
def skipDigits (c : Cursor) : Cursor :=
  match h : c.rest with
  | ch :: _ => if '0' ≤ ch ∧ ch ≤ '9' then skipDigits c.advance else c
  | [] => c
termination_by c.rest.length
decreasing_by exact advance_lt h

end Cursor

/-- The decimal digit of a character. -/
def digitOf? (ch : Char) : Option Nat :=
  if '0' ≤ ch ∧ ch ≤ '9' then some (ch.toNat - '0'.toNat) else none

/-- The largest 64-bit unsigned value. -/
def maxUnsigned : Nat := Nat.pow 2 64 - 1

/-- Whether `n * 10 + d` leaves 64 unsigned bits. -/
def overflows (n d : Nat) : Bool :=
  n ≥ maxUnsigned / 10 && (n > maxUnsigned / 10 || d > maxUnsigned % 10)

/-- The largest 32-bit signed value, the range of a decimal exponent. -/
def maxExponent : Int := (Nat.pow 2 31 : Int) - 1

/-- The double `significand · 10^exponent`, by one rounded multiplication or division with a
correctly rounded power of ten; exponents beyond the table divide by `10^308` first. -/
def fromParts (negative : Bool) (significand : Nat) (exponent : Int) :
    Except ReadFault Float := do
  let rec go (fuel : Nat) (f : Float) (e : Int) : Except ReadFault Float :=
    match fuel with
    | 0 => pure f
    | fuel + 1 =>
      if e.natAbs ≤ 308 then
        if e ≥ 0 then
          let g := f * Decimal.powTen e.natAbs
          if g.isInf then throw .numberOutOfRange else pure g
        else pure (f / Decimal.powTen e.natAbs)
      else if f == 0 then pure f
      else if e ≥ 0 then throw .numberOutOfRange
      else go fuel (f / Decimal.powTen 308) (e + 308)
  let f ← go 8 (Decimal.ofNatNearest significand) exponent
  pure (if negative then -f else f)

/-- Lift a number fault to the position of the last byte consumed. -/
def atHere {α : Type} (c : Cursor) : Except ReadFault α → Except ReadError α
  | .ok a => .ok a
  | .error f => .error (c.here f)

set_option linter.unusedVariables false in
/-- Digits after an exponent's sign: the exponent value, or `none` once it leaves 32 bits (the
cursor then stands just after the digit that left the range). -/
def readExponentDigits (c : Cursor) (acc : Int) : Option Int × Cursor :=
  match h : c.rest with
  | ch :: _ =>
    match digitOf? ch with
    | some d =>
      if acc * 10 + d > maxExponent then (none, c.advance)
      else readExponentDigits c.advance (acc * 10 + d)
    | none => (some acc, c)
  | [] => (some acc, c)
termination_by c.rest.length
decreasing_by exact Cursor.advance_lt h

/-- An exponent part, the `e` or `E` already seen. -/
def readExponent (c : Cursor) (negative : Bool) (significand : Nat) (start : Int) :
    Except ReadError (Number × Cursor) :=
  let c := c.advance
  let (expNegative, c) :=
    match c.peek? with
    | some '+' => (false, c.advance)
    | some '-' => (true, c.advance)
    | _ => (false, c)
  match c.peek? with
  | none => .error (c.here .eofValue)
  | some ch =>
    match digitOf? ch with
    | none => .error (c.ahead .invalidNumber)
    | some d =>
      match readExponentDigits c.advance d with
      | (none, c') =>
        -- the digit that left the range is consumed; the fault is reported there
        if significand ≠ 0 ∧ ¬ expNegative then .error (c'.here .numberOutOfRange)
        else .ok (.double (if negative then -0.0 else 0.0), c'.skipDigits)
      | (some e, c') =>
        let sum := if expNegative then start - e else start + e
        -- the sum saturates at the 32-bit range
        let final := max (-maxExponent - 1) (min maxExponent sum)
        (atHere c' (fromParts negative significand final)).map (fun f => (.double f, c'))

set_option linter.unusedVariables false in
/-- A fraction part, the `.` already seen. -/
def readFraction (c : Cursor) (negative : Bool) (significand : Nat) (start : Int) :
    Except ReadError (Number × Cursor) :=
  let rec digits (c : Cursor) (sig : Nat) (count : Nat) : Nat × Nat × Bool × Cursor :=
    match h : c.rest with
    | ch :: _ =>
      match digitOf? ch with
      | some d =>
        if overflows sig d then (sig, count, true, c.skipDigits)
        else digits c.advance (sig * 10 + d) (count + 1)
      | none => (sig, count, false, c)
    | [] => (sig, count, false, c)
  termination_by c.rest.length
  decreasing_by exact Cursor.advance_lt h
  let c := c.advance
  let (sig, count, overflowed, c) := digits c significand 0
  if count = 0 ∧ ¬ overflowed then
    match c.peek? with
    | some _ => .error (c.ahead .invalidNumber)
    | none => .error (c.ahead .eofValue)
  else
    let exponent := start - count
    match c.peek? with
    | some 'e' | some 'E' => readExponent c negative sig exponent
    | _ => (atHere c (fromParts negative sig exponent)).map (fun f => (.double f, c))

/-- The class of an integer literal that ended without fraction or exponent. -/
def integerNumber (negative : Bool) (significand : Nat) : Number :=
  if ¬ negative then .unsigned significand
  else if significand = 0 then .double (-0.0)
  else if significand ≤ Nat.pow 2 63 then .negative (-(significand : Int))
  else .double (-(Decimal.ofNatNearest significand))

/-- What follows the integer digits of a number. -/
def readAfterInteger (c : Cursor) (negative : Bool) (significand : Nat) :
    Except ReadError (Number × Cursor) :=
  match c.peek? with
  | some '.' => readFraction c negative significand 0
  | some 'e' | some 'E' => readExponent c negative significand 0
  | _ => .ok (integerNumber negative significand, c)

set_option linter.unusedVariables false in
/-- Integer digits beyond 64 bits only scale the significand by ten each. -/
def readLongInteger (c : Cursor) (negative : Bool) (significand : Nat) (extra : Nat) :
    Except ReadError (Number × Cursor) :=
  match h : c.rest with
  | ch :: _ =>
    if (digitOf? ch).isSome then readLongInteger c.advance negative significand (extra + 1)
    else if ch = '.' then readFraction c negative significand extra
    else if ch = 'e' ∨ ch = 'E' then readExponent c negative significand extra
    else (atHere c (fromParts negative significand extra)).map (fun f => (.double f, c))
  | [] => (atHere c (fromParts negative significand extra)).map (fun f => (.double f, c))
termination_by c.rest.length
decreasing_by exact Cursor.advance_lt h

set_option linter.unusedVariables false in
/-- Integer digits after the first non-zero one. -/
def readIntegerDigits (c : Cursor) (negative : Bool) (significand : Nat) :
    Except ReadError (Number × Cursor) :=
  match h : c.rest with
  | ch :: _ =>
    match digitOf? ch with
    | some d =>
      if overflows significand d then readLongInteger c negative significand 0
      else readIntegerDigits c.advance negative (significand * 10 + d)
    | none => readAfterInteger c negative significand
  | [] => readAfterInteger c negative significand
termination_by c.rest.length
decreasing_by exact Cursor.advance_lt h

/-- A number, its sign already consumed. -/
def readNumber (c : Cursor) (negative : Bool) : Except ReadError (Number × Cursor) :=
  match c.peek? with
  | none => .error (c.here .eofValue)
  | some '0' =>
    let c := c.advance
    match c.peek? with
    | some ch => if (digitOf? ch).isSome then .error (c.ahead .invalidNumber)
      else readAfterInteger c negative 0
    | none => readAfterInteger c negative 0
  | some ch =>
    match digitOf? ch with
    | some d => readIntegerDigits c.advance negative d
    | none => .error (c.ahead .invalidNumber)

/-- The value of a hexadecimal digit. -/
def hexOf? (ch : Char) : Option Nat :=
  if '0' ≤ ch ∧ ch ≤ '9' then some (ch.toNat - '0'.toNat)
  else if 'a' ≤ ch ∧ ch ≤ 'f' then some (ch.toNat - 'a'.toNat + 10)
  else if 'A' ≤ ch ∧ ch ≤ 'F' then some (ch.toNat - 'A'.toNat + 10)
  else none

/-- Four hexadecimal digits of a `\u` escape. -/
def readHex4 (c : Cursor) : Except ReadError (Nat × Cursor) :=
  match c.rest with
  | a :: b :: d :: e :: _ =>
    let c' := c.advance.advance.advance.advance
    match hexOf? a, hexOf? b, hexOf? d, hexOf? e with
    | some a, some b, some d, some e => .ok (((a * 16 + b) * 16 + d) * 16 + e, c')
    | _, _, _, _ => .error (c'.here .invalidEscape)
  | _ => .error ⟨.eofString, c.total⟩

/-- A `\u` escape, the `u` already consumed; a surrogate pair makes one character. -/
def readUnicodeEscape (c : Cursor) : Except ReadError (Char × Cursor) := do
  let (n, c) ← readHex4 c
  if 0xDC00 ≤ n ∧ n ≤ 0xDFFF then throw (c.here .loneSurrogate)
  if n < 0xD800 ∨ n > 0xDBFF then return (Char.ofNat n, c)
  match c.peek? with
  | none => throw (c.here .eofString)
  | some '\\' =>
    let c := c.advance
    match c.peek? with
    | none => throw (c.here .eofString)
    | some 'u' =>
      let (n2, c) ← readHex4 c.advance
      if n2 < 0xDC00 ∨ n2 > 0xDFFF then throw (c.here .loneSurrogate)
      return (Char.ofNat (((n - 0xD800) * 1024 + (n2 - 0xDC00)) + 0x10000), c)
    | some _ => throw (c.ahead .unexpectedEndOfHexEscape)
  | some _ => throw (c.ahead .unexpectedEndOfHexEscape)

/-- The character a one-letter escape stands for. -/
def escapeOf? : Char → Option Char
  | '"' => some '"'
  | '\\' => some '\\'
  | '/' => some '/'
  | 'b' => some (Char.ofNat 8)
  | 'f' => some (Char.ofNat 12)
  | 'n' => some '\n'
  | 'r' => some '\r'
  | 't' => some '\t'
  | _ => none

set_option linter.unusedVariables false in
/-- The body of a string, the opening quote already consumed. -/
def readStringBody (c : Cursor) (acc : List Char) : Except ReadError (String × Cursor) :=
  match h : c.rest with
  | [] => .error ⟨.eofString, c.total⟩
  | ch :: _ =>
    if ch = '"' then .ok (String.ofList acc.reverse, c.advance)
    else if ch = '\\' then
      let c1 := c.advance
      match h1 : c1.rest with
      | [] => .error (c1.here .eofString)
      | e :: _ =>
        if e = 'u' then
          match readUnicodeEscape c1.advance with
          | .error err => .error err
          | .ok (u, c2) =>
            if hlt : c2.rest.length < c.rest.length then readStringBody c2 (u :: acc)
            else .error (c2.here .outOfFuel)
        else
          match escapeOf? e with
          | some x => readStringBody c1.advance (x :: acc)
          | none => .error (c1.ahead .invalidEscape)
    else if ch.toNat < 0x20 then .error (c.ahead .controlCharacter)
    else readStringBody c.advance (ch :: acc)
termination_by c.rest.length
decreasing_by
  · exact hlt
  · exact Nat.lt_trans (Cursor.advance_lt h1) (Cursor.advance_lt h)
  · exact Cursor.advance_lt h

/-- A literal word (`null`, `true`, `false`) after its first letter. -/
def readWord (c : Cursor) : List Char → Except ReadError Cursor
  | [] => .ok c
  | w :: ws =>
    match c.peek? with
    | none => .error (c.here .eofValue)
    | some ch => if ch = w then readWord c.advance ws else .error (c.ahead .expectedIdent)

mutual

/-- One value, after optional blanks. `depth` counts the containers still allowed. -/
def readValue (fuel depth : Nat) (c : Cursor) : Except ReadError (Json × Cursor) :=
  match fuel with
  | 0 => .error (c.here .outOfFuel)
  | fuel + 1 =>
    let c := c.skipBlank
    match c.peek? with
    | none => .error (c.ahead .eofValue)
    | some 'n' => (readWord c.advance ['u', 'l', 'l']).map (fun c => (.null, c))
    | some 't' => (readWord c.advance ['r', 'u', 'e']).map (fun c => (.bool true, c))
    | some 'f' => (readWord c.advance ['a', 'l', 's', 'e']).map (fun c => (.bool false, c))
    | some '-' => (readNumber c.advance true).map (fun (n, c) => (.num n, c))
    | some '"' => (readStringBody c.advance []).map (fun (s, c) => (.str s, c))
    | some '[' =>
      if depth ≤ 1 then .error (c.ahead .recursionLimit)
      else do
        let (items, c) ← readItems fuel (depth - 1) c.advance true []
        pure (.arr items, c)
    | some '{' =>
      if depth ≤ 1 then .error (c.ahead .recursionLimit)
      else do
        let (fields, c) ← readFields fuel (depth - 1) c.advance true []
        pure (.obj fields, c)
    | some ch =>
      if (digitOf? ch).isSome then (readNumber c false).map (fun (n, c) => (.num n, c))
      else .error (c.ahead .expectedValue)

/-- The items of an array up to and including its closing bracket. -/
def readItems (fuel depth : Nat) (c : Cursor) (first : Bool) (acc : List Json) :
    Except ReadError (List Json × Cursor) :=
  match fuel with
  | 0 => .error (c.here .outOfFuel)
  | fuel + 1 =>
    let c := c.skipBlank
    match c.peek? with
    | none => .error (c.ahead .eofList)
    | some ']' => .ok (acc.reverse, c.advance)
    | some ',' =>
      if first then .error (c.ahead .expectedValue)
      else
        let c := c.advance.skipBlank
        match c.peek? with
        | some ']' => .error (c.ahead .trailingComma)
        | none => .error (c.ahead .eofValue)
        | some _ => do
          let (v, c) ← readValue fuel depth c
          readItems fuel depth c false (v :: acc)
    | some _ =>
      if first then do
        let (v, c) ← readValue fuel depth c
        readItems fuel depth c false (v :: acc)
      else .error (c.ahead .expectedListCommaOrEnd)

/-- The fields of an object up to and including its closing brace. -/
def readFields (fuel depth : Nat) (c : Cursor) (first : Bool)
    (acc : List (String × Json)) : Except ReadError (List (String × Json) × Cursor) :=
  match fuel with
  | 0 => .error (c.here .outOfFuel)
  | fuel + 1 =>
    let c := c.skipBlank
    match c.peek? with
    | none => .error (c.ahead .eofObject)
    | some '}' => .ok (acc, c.advance)
    | some ch =>
      let next : Except ReadError Cursor :=
        if ch = ',' then
          if first then .error (c.ahead .keyMustBeString)
          else .ok c.advance.skipBlank
        else if first then .ok c
        else .error (c.ahead .expectedObjectCommaOrEnd)
      match next with
      | .error e => .error e
      | .ok c =>
        match c.peek? with
        | some '"' => do
          let (k, c) ← readStringBody c.advance []
          let c := c.skipBlank
          match c.peek? with
          | some ':' =>
            let (v, c) ← readValue fuel depth c.advance
            readFields fuel depth c false (insertField k v acc)
          | some _ => .error (c.ahead .expectedColon)
          | none => .error (c.ahead .eofObject)
        | some '}' => .error (c.ahead .trailingComma)
        | some _ => .error (c.ahead .keyMustBeString)
        | none => .error (c.ahead .eofValue)

end

/-- A cursor over a whole text. -/
def Cursor.start (s : String) : Cursor := ⟨s.toList, 0, s.utf8ByteSize⟩

/-- Read a whole text as one JSON value followed only by blanks. -/
def read (s : String) : Except ReadError Json := do
  let c := Cursor.start s
  let (v, c) ← readValue (c.rest.length + 1) 128 c
  let c := c.skipBlank
  match c.peek? with
  | some _ => throw (c.ahead .trailingCharacters)
  | none => pure v

/-- Line and column (bytes from the line start) of a byte offset in a text. -/
def lineColumn (s : String) (offset : Nat) : Nat × Nat :=
  let bytes := (s.toUTF8.toList).take offset
  let lineStart := bytes.length - ((bytes.reverse.takeWhile (· != 10)).length)
  let line := 1 + (bytes.take lineStart).count 10
  (line, offset - lineStart)

/-- The message of a read fault with its position in the text. -/
def ReadError.describe (e : ReadError) (s : String) : String :=
  let (line, column) := lineColumn s e.offset
  e.fault.message ++ " at line " ++ toString line ++ " column " ++ toString column

end Json

end QueryRelay
