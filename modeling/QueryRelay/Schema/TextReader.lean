import QueryRelay.Json.Read
import QueryRelay.Schema.Decoder

/-!
# Reading typed values straight from JSON text

A `Decoder` reads a typed value out of a JSON value that was read whole. A request body is read
differently: the typed value is read *while* the text is read, so reading stops at the first
fault in the text, whether the text is malformed there or holds the wrong data there, and the
fault reports the place where reading stopped.

A fault (`TextFault`) carries its message, the byte offset whose line and column it reports,
whether it is a fault of the text's form or of its data, and the path of fields and items that
leads to it (`providers[1]`, `provider.openai`).

## Where a fault stands

* A fault of the form stands where `Json.read` would report it.
* A value of the wrong type is read as far as needed to describe it: a scalar is read whole and
  the fault stands after it; a container is not entered and the fault stands at its bracket.
  Text that starts no value at all is a fault of the form, "expected value".
* A named alternative (`choice`) is a string or an object with one key; anything else is a
  fault of the form, "expected value", without a description.
* A fault about a record as a whole (a missing or a repeated field) is placed by the reader of
  the record, which knows where the record's reading stopped.

## Values that are only checked

A field that a record does not declare is skipped (`skip`): it must be well formed, but numbers
are not evaluated, escapes are checked without being decoded, and nesting has no limit. A value
that is kept without a type (`content`) is read in full, with the usual nesting limit, and its
faults carry the path inside it.

Every loop here runs on fuel computed from the length of the text, more than any text needs.
-/

namespace QueryRelay

namespace Schema

/-- One step into a value: a field of an object or an item of an array. -/
inductive PathStep where
  | key (name : String)
  | item (index : Nat)

/-- The text of a path: field names joined by dots, items as `[i]` with no dot before them. -/
def pathText (steps : List PathStep) : String :=
  (steps.foldl (fun (acc : String × Bool) s =>
    match s with
    | .key k => (acc.1 ++ (if acc.2 then "." else "") ++ k, true)
    | .item i => (acc.1 ++ "[" ++ toString i ++ "]", true)) ("", false)).1

/-- A fault met while reading a typed value from text. -/
structure TextFault where
  /-- What is wrong. -/
  message : String
  /-- The byte offset whose line and column the fault reports. -/
  offset : Nat
  /-- Whether the text is not well formed, as opposed to well formed but holding the wrong
  data. -/
  malformed : Bool
  /-- The fields and items, outermost first, that lead to where the fault was met. -/
  path : List PathStep := []

namespace TextFault

/-- A fault of the text's form. -/
def ofRead (e : Json.ReadError) : TextFault := ⟨e.fault.message, e.offset, true, []⟩

/-- A fault of the data, reported at `offset`. -/
def ofDecode (e : DecodeError) (offset : Nat) : TextFault := ⟨e.message, offset, false, []⟩

/-- The same fault, met one step further in. -/
def under (s : PathStep) (f : TextFault) : TextFault := { f with path := s :: f.path }

/-- The message with its path in front and its line and column behind. -/
def describe (f : TextFault) (text : String) : String :=
  let (line, column) := Json.lineColumn text f.offset
  let lead := if f.path.isEmpty then "" else pathText f.path ++ ": "
  lead ++ f.message ++ " at line " ++ toString line ++ " column " ++ toString column

end TextFault

/-- A reader of a typed value from the text at a cursor: the value and the cursor after it. -/
abbrev TextReader (α : Type) := Json.Cursor → Except TextFault (α × Json.Cursor)

namespace TextReader

open Json (Cursor ReadError)

/-- A fault of the JSON reader as a text fault. -/
def lift {α : Type} : Except ReadError α → Except TextFault α
  | .ok a => .ok a
  | .error e => .error (.ofRead e)

/-- A reading one step further in: its fault carries the step. -/
def under {α : Type} (s : PathStep) : Except TextFault α → Except TextFault α
  | .ok a => .ok a
  | .error f => .error (f.under s)

/-- A fault of the form at the byte about to be read. -/
def faultAhead {α : Type} (c : Cursor) (f : Json.ReadFault) : Except TextFault α :=
  .error (.ofRead (c.ahead f))

/-- The fault for a value that is not what `expected` names, the cursor at its first byte: a
scalar is read to describe it and the fault stands after it, a container is described from its
bracket, and anything else is not a value. -/
def wrongType {α : Type} (expected : String) (c : Cursor) : Except TextFault α :=
  let found (f : Found) (c : Cursor) : Except TextFault α :=
    .error (.ofDecode (.invalidType f expected) c.offset)
  match c.peek? with
  | some '[' => found .seq c
  | some '{' => found .map c
  | some _ =>
    match Json.readValue 1 1 c with
    | .ok (v, c) => found (Found.ofJson v) c
    | .error e => .error (.ofRead e)
  | none => faultAhead c .expectedValue

/-- A string. -/
def string : TextReader String := fun c =>
  let c := c.skipBlank
  match c.peek? with
  | some '"' => lift (Json.readStringBody c.advance [])
  | some _ => wrongType "a string" c
  | none => faultAhead c .eofValue

/-- The unit value, written `null`. -/
def unit : TextReader Unit := fun c =>
  let c := c.skipBlank
  match c.peek? with
  | some 'n' => lift ((Json.readWord c.advance ['u', 'l', 'l']).map (fun c => ((), c)))
  | some _ => wrongType "unit" c
  | none => faultAhead c .eofValue

/-- An optional value: `null` is absent, anything else is read by `r`. -/
def option {α : Type} (r : TextReader α) : TextReader (Option α) := fun c =>
  let c := c.skipBlank
  match c.peek? with
  | some 'n' => lift ((Json.readWord c.advance ['u', 'l', 'l']).map (fun c => (none, c)))
  | _ => (r c).map (fun (a, c) => (some a, c))

/-- An integer accepted by `d` (such as `Decoder.u64`); `expected` names it in faults. A number
that `d` refuses is a fault of the data after the number. -/
def integer {α : Type} (d : Decoder α) (expected : String) : TextReader α := fun c =>
  let c := c.skipBlank
  let checked (r : Except ReadError (Number × Cursor)) : Except TextFault (α × Cursor) :=
    match r with
    | .error e => .error (.ofRead e)
    | .ok (n, c) =>
      match d (.num n) with
      | .ok a => .ok (a, c)
      | .error e => .error (.ofDecode e c.offset)
  match c.peek? with
  | some '-' => checked (Json.readNumber c.advance true)
  | some ch =>
    if (Json.digitOf? ch).isSome then checked (Json.readNumber c false) else wrongType expected c
  | none => faultAhead c .eofValue

/-- The alternative a spelling names, the fault after the spelling when it names none. -/
def spelledAt {α : Type} (table : List (String × α)) (s : String) (c : Cursor) :
    Except TextFault α :=
  match Decoder.spelled table s with
  | .ok a => .ok a
  | .error e => .error (.ofDecode e c.offset)

/-- The colon between a key and its value. -/
def colon (c : Cursor) : Except TextFault Cursor :=
  let c := c.skipBlank
  match c.peek? with
  | some ':' => .ok c.advance
  | some _ => faultAhead c .expectedColon
  | none => faultAhead c .eofObject

/-- One of named alternatives without data: a string naming it, or an object whose one key
names it and whose value is `null`; a fault in that value is under the name. -/
def choice {α : Type} (table : List (String × α)) : TextReader α := fun c =>
  let c := c.skipBlank
  match c.peek? with
  | some '"' => do
    let (s, c) ← lift (Json.readStringBody c.advance [])
    let a ← spelledAt table s c
    pure (a, c)
  | some '{' => do
    let c := c.advance.skipBlank
    let (name, c) ← match c.peek? with
      | some '"' => lift (Json.readStringBody c.advance [])
      | some _ => wrongType "variant identifier" c
      | none => faultAhead c .eofValue
    let a ← spelledAt table name c
    let c ← colon c
    let ((), c) ← under (.key name) (unit c)
    let c := c.skipBlank
    match c.peek? with
    | some '}' => pure (a, c.advance)
    | some _ => .error (.ofRead (c.here .expectedValue))
    | none => .error (.ofRead (c.here .eofObject))
  | some _ => faultAhead c .expectedValue
  | none => faultAhead c .eofValue

/-- Whether an array has another item, and the cursor at it; `first` says that no item has been
read yet. At the end the cursor stands at the closing bracket. -/
def nextItem (first : Bool) (c : Cursor) : Except TextFault (Bool × Cursor) :=
  let c := c.skipBlank
  match c.peek? with
  | some ']' => .ok (false, c)
  | some ',' =>
    if first then .ok (true, c)
    else
      let c := c.advance.skipBlank
      match c.peek? with
      | some ']' => faultAhead c .trailingComma
      | some _ => .ok (true, c)
      | none => faultAhead c .eofValue
  | some _ => if first then .ok (true, c) else faultAhead c .expectedListCommaOrEnd
  | none => faultAhead c .eofList

/-- The next key of an object and the cursor after it, `none` at the closing brace (which is
left unread); `first` says that no key has been read yet. -/
def nextKey (first : Bool) (c : Cursor) : Except TextFault (Option String × Cursor) :=
  let c := c.skipBlank
  match c.peek? with
  | some '}' => .ok (none, c)
  | some ch =>
    let start : Except TextFault Cursor :=
      if ch = ',' ∧ ¬ first then .ok c.advance.skipBlank
      else if first then .ok c
      else faultAhead c .expectedObjectCommaOrEnd
    match start with
    | .error f => .error f
    | .ok c =>
      match c.peek? with
      | some '"' => (lift (Json.readStringBody c.advance [])).map (fun (k, c) => (some k, c))
      | some '}' => faultAhead c .trailingComma
      | some _ => faultAhead c .keyMustBeString
      | none => faultAhead c .eofValue
  | none => faultAhead c .eofObject

/-- Where reading stands after closing an object whose fields are done, whether or not the
close succeeds: after blanks, and after the brace if one is there. A fault about the whole
object is reported here. -/
def objectStop (c : Cursor) : Cursor :=
  let c := c.skipBlank
  match c.peek? with
  | some '}' => c.advance
  | _ => c

/-- Where reading stands after closing an array whose items are done, whether or not the close
succeeds: after blanks, and after the bracket, or after a comma and the blanks behind it. -/
def arrayStop (c : Cursor) : Cursor :=
  let c := c.skipBlank
  match c.peek? with
  | some ']' => c.advance
  | some ',' => c.advance.skipBlank
  | _ => c

/-- The close of an array whose items are done. -/
def closeArray (c : Cursor) : Except TextFault Cursor :=
  let c := c.skipBlank
  match c.peek? with
  | some ']' => .ok c.advance
  | some ',' =>
    let c := c.advance.skipBlank
    match c.peek? with
    | some ']' => faultAhead c .trailingComma
    | _ => faultAhead c .trailingCharacters
  | some _ => faultAhead c .trailingCharacters
  | none => faultAhead c .eofList

/-- The items of an array after its opening bracket, each read by `r` under its index. -/
def items {α : Type} (r : TextReader α) : Nat → Nat → List α → Cursor →
    Except TextFault (List α × Cursor)
  | 0, _, _, c => .error (.ofRead (c.here .outOfFuel))
  | fuel + 1, i, acc, c => do
    let (more, c) ← nextItem (i == 0) c
    if more then
      let (a, c) ← under (.item i) (r c)
      items r fuel (i + 1) (a :: acc) c
    else pure (acc.reverse, c.advance)

/-- An array of values each read by `r`. -/
def list {α : Type} (r : TextReader α) : TextReader (List α) := fun c =>
  let c := c.skipBlank
  match c.peek? with
  | some '[' => items r (c.rest.length + 1) 0 [] c.advance
  | some _ => wrongType "a sequence" c
  | none => faultAhead c .eofValue

/-- A field's value: the colon, then `r`; a fault in either is under the field's name. -/
def fieldValue {α : Type} (name : String) (r : TextReader α) : TextReader α := fun c =>
  under (.key name) (do
    let c ← colon c
    r c)

/-! ### Checking a value without keeping it -/

/-- The exponent of a skipped number, at its `e`. -/
def skipExponent (c : Cursor) : Except ReadError Cursor :=
  let c := c.advance
  let c := match c.peek? with
    | some '+' | some '-' => c.advance
    | _ => c
  match c.peek? with
  | some ch => if (Json.digitOf? ch).isSome then .ok c.advance.skipDigits else .error (c.ahead .invalidNumber)
  | none => .error (c.ahead .invalidNumber)

/-- What may follow the integer digits of a skipped number. -/
def skipNumberTail (c : Cursor) : Except ReadError Cursor :=
  match c.peek? with
  | some '.' =>
    let c := c.advance
    let c' := c.skipDigits
    if c'.offset = c.offset then .error (c'.ahead .invalidNumber)
    else
      match c'.peek? with
      | some 'e' | some 'E' => skipExponent c'
      | _ => .ok c'
  | some 'e' | some 'E' => skipExponent c
  | _ => .ok c

/-- A skipped number after its sign: its form is checked, its value is not computed. -/
def skipNumber (c : Cursor) : Except ReadError Cursor :=
  match c.peek? with
  | some '0' =>
    let c := c.advance
    match c.peek? with
    | some ch => if (Json.digitOf? ch).isSome then .error (c.ahead .invalidNumber) else skipNumberTail c
    | none => skipNumberTail c
  | some ch =>
    if '1' ≤ ch ∧ ch ≤ '9' then skipNumberTail c.advance.skipDigits
    else .error (c.ahead .invalidNumber)
  | none => .error (c.here .invalidNumber)

/-- A skipped string after its opening quote: escapes are checked, not decoded, and a control
character is reported where it stands. -/
def skipString : Nat → Cursor → Except ReadError Cursor
  | 0, c => .error (c.here .outOfFuel)
  | fuel + 1, c =>
    match c.peek? with
    | none => .error ⟨.eofString, c.total⟩
    | some ch =>
      if ch = '"' then .ok c.advance
      else if ch = '\\' then
        let c1 := c.advance
        match c1.peek? with
        | none => .error ⟨.eofString, c1.total⟩
        | some e =>
          if e = 'u' then
            match Json.readHex4 c1.advance with
            | .ok (_, c2) => skipString fuel c2
            | .error err => .error err
          else if (Json.escapeOf? e).isSome then skipString fuel c1.advance
          else .error (c1.ahead .invalidEscape)
      else if ch.toNat < 0x20 then .error (c.here .controlCharacter)
      else skipString fuel c.advance

mutual

/-- Skip one value after optional blanks. -/
def skipValue : Nat → Cursor → Except ReadError Cursor
  | 0, c => .error (c.here .outOfFuel)
  | fuel + 1, c =>
    let c := c.skipBlank
    match c.peek? with
    | some 'n' => Json.readWord c.advance ['u', 'l', 'l']
    | some 't' => Json.readWord c.advance ['r', 'u', 'e']
    | some 'f' => Json.readWord c.advance ['a', 'l', 's', 'e']
    | some '-' => skipNumber c.advance
    | some '"' => skipString fuel c.advance
    | some '[' => skipItems fuel false c.advance
    | some '{' => skipFields fuel false c.advance
    | some ch =>
      if (Json.digitOf? ch).isSome then skipNumber c else .error (c.ahead .expectedValue)
    | none => .error (c.ahead .eofValue)

/-- Skip the items of an array up to its closing bracket; `afterItem` says that an item was
just skipped, so a comma or the end must come. -/
def skipItems : Nat → Bool → Cursor → Except ReadError Cursor
  | 0, _, c => .error (c.here .outOfFuel)
  | fuel + 1, afterItem, c =>
    let c := c.skipBlank
    match c.peek? with
    | some ']' => .ok c.advance
    | some ',' =>
      if afterItem then do
        let c ← skipValue fuel c.advance
        skipItems fuel true c
      else .error (c.ahead .expectedValue)
    | some _ =>
      if afterItem then .error (c.ahead .expectedListCommaOrEnd)
      else do
        let c ← skipValue fuel c
        skipItems fuel true c
    | none => .error (c.ahead .eofList)

/-- Skip the fields of an object up to its closing brace; `afterField` says that a field was
just skipped, so a comma or the end must come. -/
def skipFields : Nat → Bool → Cursor → Except ReadError Cursor
  | 0, _, c => .error (c.here .outOfFuel)
  | fuel + 1, afterField, c =>
    let c := c.skipBlank
    match c.peek? with
    | some '}' => .ok c.advance
    | some ',' => if afterField then skipEntry fuel c.advance else .error (c.ahead .keyMustBeString)
    | some _ => if afterField then .error (c.ahead .expectedObjectCommaOrEnd) else skipEntry fuel c
    | none => .error (c.ahead .eofObject)

/-- Skip one key, its colon and its value, then the fields after them. -/
def skipEntry : Nat → Cursor → Except ReadError Cursor
  | 0, c => .error (c.here .outOfFuel)
  | fuel + 1, c =>
    let c := c.skipBlank
    match c.peek? with
    | some '"' => do
      let c ← skipString fuel c.advance
      let c := c.skipBlank
      match c.peek? with
      | some ':' => do
        let c ← skipValue fuel c.advance
        skipFields fuel true c
      | some _ => .error (c.ahead .expectedColon)
      | none => .error (c.ahead .eofObject)
    | some _ => .error (c.ahead .keyMustBeString)
    | none => .error (c.ahead .eofObject)

end

/-- Skip a value that is checked but not kept. -/
def skip (c : Cursor) : Except TextFault Cursor :=
  lift (skipValue (4 * (c.rest.length + 1)) c)

/-! ### Keeping a value without a type -/

mutual

/-- One value after optional blanks, kept as JSON; `depth` counts the containers still
allowed, and a fault inside a container is under the field or item where it was met. -/
def contentValue : Nat → Nat → Cursor → Except TextFault (Json × Cursor)
  | 0, _, c => .error (.ofRead (c.here .outOfFuel))
  | fuel + 1, depth, c =>
    let c := c.skipBlank
    match c.peek? with
    | some '[' =>
      if depth ≤ 1 then faultAhead c .recursionLimit
      else contentItems fuel (depth - 1) 0 [] c.advance
    | some '{' =>
      if depth ≤ 1 then faultAhead c .recursionLimit
      else contentFields fuel (depth - 1) true [] c.advance
    | _ => lift (Json.readValue 1 depth c)

/-- The items of a kept array after its opening bracket. -/
def contentItems : Nat → Nat → Nat → List Json → Cursor → Except TextFault (Json × Cursor)
  | 0, _, _, _, c => .error (.ofRead (c.here .outOfFuel))
  | fuel + 1, depth, i, acc, c => do
    let (more, c) ← nextItem (i == 0) c
    if more then
      let (v, c) ← under (.item i) (contentValue fuel depth c)
      contentItems fuel depth (i + 1) (v :: acc) c
    else pure (.arr acc.reverse, c.advance)

/-- The fields of a kept object after its opening brace; of two equal keys the later wins. -/
def contentFields : Nat → Nat → Bool → List (String × Json) → Cursor →
    Except TextFault (Json × Cursor)
  | 0, _, _, _, c => .error (.ofRead (c.here .outOfFuel))
  | fuel + 1, depth, first, acc, c => do
    let (key, c) ← nextKey first c
    match key with
    | none => pure (.obj acc, c.advance)
    | some k =>
      let (v, c) ← under (.key k) (do
        let c ← colon c
        contentValue fuel depth c)
      contentFields fuel depth false (Json.insertField k v acc) c

end

/-- A value kept as JSON, `depth` containers deep at most. -/
def content (depth : Nat) : TextReader Json := fun c =>
  contentValue (c.rest.length + 1) depth c

end TextReader

end Schema

end QueryRelay
