import QueryRelay.Query.FanoutRequest
import QueryRelay.Schema.TextReader

/-!
# Request bodies

The gateway reads a request body straight from its text (`Schema.TextReader`), so of several
faults in a body the first one in the text is reported, where reading stopped.

## A request

A request body is an object, or an array of the fields in declared order (`query`, `provider`,
`task_type`, `model_version`, `request_id`).

* In an object, fields are read in the order of the text. A field the request does not declare
  is skipped. A declared field met a second time is a fault as soon as its key is read, reported
  after the key and the blanks behind it. A missing `query` is reported after the closing
  brace.
* In an array, the first item is required (its absence is reported after the closing bracket)
  and the others are absent when the array ends before them; an item after the fifth is a fault
  of the form.

## A fan-out request

A fan-out body is an object. `providers` and `timeout_ms` are read as they come; every other
field is kept as JSON, in the order of the text. Once the object is closed, the kept fields are
read as a request (`Request.readFields` over them in that order, repeats included), and a fault
there is reported after the closing brace, with no path.
-/

namespace QueryRelay

open Schema TextReader

namespace Request

/-- Read the value of the declared field `name` into a request. -/
def readFieldText (r : Request) (name : String) : TextReader Request := fun c =>
  if name == "query" then (string c).map (fun (q, c) => ({ r with query := q }, c))
  else if name == "provider" then
    (option (choice Provider.spellings) c).map (fun (p, c) => ({ r with provider := p }, c))
  else if name == "task_type" then
    (option (choice TaskType.spellings) c).map (fun (t, c) => ({ r with taskType := t }, c))
  else if name == "model_version" then
    (option string c).map (fun (m, c) => ({ r with modelVersion := m }, c))
  else (option string c).map (fun (i, c) => ({ r with requestId := i }, c))

/-- The fields of a request object after its opening brace, up to its closing brace (left
unread): the declared names read so far and the request they make. -/
def readObjectFields : Nat → Bool → List String → Request → Json.Cursor →
    Except TextFault ((List String × Request) × Json.Cursor)
  | 0, _, _, _, c => .error (.ofRead (c.here .outOfFuel))
  | fuel + 1, first, seen, r, c => do
    let (key, c) ← nextKey first c
    match key with
    | none => pure ((seen, r), c)
    | some k =>
      if fieldNames.contains k then
        if seen.contains k then throw (.ofDecode (.duplicateField k) (objectStop c).offset)
        let (r, c) ← fieldValue k (readFieldText r k) c
        readObjectFields fuel false (k :: seen) r c
      else
        let c ← under (.key k) (do
          let c ← colon c
          skip c)
        readObjectFields fuel false seen r c

/-- A request written as an object, after its opening brace. -/
def readObject (c : Json.Cursor) : Except TextFault (Request × Json.Cursor) := do
  let ((seen, r), c) ← readObjectFields (c.rest.length + 1) true [] { query := "" } c
  let c := c.advance
  if seen.contains "query" then pure (r, c)
  else throw (.ofDecode (.missingField "query") c.offset)

/-- An optional item of a request array, under its index; absent once the array has ended. -/
def readOptionalItem {α : Type} (r : TextReader (Option α)) (i : Nat) (c : Json.Cursor) :
    Except TextFault (Option α × Json.Cursor) := do
  let (more, c) ← nextItem false c
  if more then under (.item i) (r c) else pure (none, c)

/-- A request written as an array, after its opening bracket. -/
def readArray (c : Json.Cursor) : Except TextFault (Request × Json.Cursor) := do
  let (more, c) ← nextItem true c
  if !more then
    let record : Record := { layout := .items [], names := fieldNames, title := recordTitle }
    throw (.ofDecode (.invalidLength 0 record.arity) (arrayStop c).offset)
  let (query, c) ← under (.item 0) (string c)
  let (provider, c) ← readOptionalItem (option (choice Provider.spellings)) 1 c
  let (taskType, c) ← readOptionalItem (option (choice TaskType.spellings)) 2 c
  let (modelVersion, c) ← readOptionalItem (option string) 3 c
  let (requestId, c) ← readOptionalItem (option string) 4 c
  let c ← closeArray c
  pure (⟨query, provider, taskType, modelVersion, requestId⟩, c)

/-- Read a request from the text of a body. -/
def ofBody (text : String) : Except TextFault Request :=
  let c := (Json.Cursor.start text).skipBlank
  match c.peek? with
  | some '{' => (readObject c.advance).map Prod.fst
  | some '[' => (readArray c.advance).map Prod.fst
  | some _ => wrongType recordTitle c
  | none => faultAhead c .eofValue

end Request

namespace FanoutRequest

/-- A fan-out object read so far: its own two fields if met, and the other fields kept, the
last met first. -/
structure Gathered where
  providers : Option (List Provider) := none
  timeoutMs : Option (Option Nat) := none
  kept : List (String × Json) := []

/-- Containers a kept field may nest, the enclosing object counted. -/
def keptDepth : Nat := 127

/-- The fields of a fan-out object after its opening brace, up to its closing brace (left
unread). -/
def readFields : Nat → Bool → Gathered → Json.Cursor →
    Except TextFault (Gathered × Json.Cursor)
  | 0, _, _, c => .error (.ofRead (c.here .outOfFuel))
  | fuel + 1, first, g, c => do
    let (key, c) ← nextKey first c
    match key with
    | none => pure (g, c)
    | some k =>
      if k == "providers" then
        if g.providers.isSome then throw (.ofDecode (.duplicateField k) (objectStop c).offset)
        let (ps, c) ← fieldValue k (list (choice Provider.spellings)) c
        readFields fuel false { g with providers := some ps } c
      else if k == "timeout_ms" then
        if g.timeoutMs.isSome then throw (.ofDecode (.duplicateField k) (objectStop c).offset)
        let (t, c) ← fieldValue k (option (integer Decoder.u64 "u64")) c
        readFields fuel false { g with timeoutMs := some t } c
      else
        let (v, c) ← fieldValue k (content keptDepth) c
        readFields fuel false { g with kept := (k, v) :: g.kept } c

/-- Read a fan-out request from the text of a body. -/
def ofBody (text : String) : Except TextFault FanoutRequest :=
  let c := (Json.Cursor.start text).skipBlank
  match c.peek? with
  | some '{' => do
    let (g, c) ← readFields (c.rest.length + 1) true {} c.advance
    let c := c.advance
    let record : Record :=
      { layout := .fields g.kept.reverse, names := Request.fieldNames,
        title := Request.recordTitle }
    match record.run Request.readFields with
    | .ok request => pure ⟨request, g.providers.getD [], g.timeoutMs.getD none⟩
    | .error e => throw (.ofDecode e c.offset)
  | some _ => wrongType "struct ParallelQueryRequest" c
  | none => faultAhead c .eofValue

end FanoutRequest

end QueryRelay
