import QueryRelay.Schema.Fault
import QueryRelay.Decimal.Binary64

/-!
# Reading typed values out of JSON

A `Decoder α` reads an `α` from a JSON value or says why it cannot (`DecodeError`). The
primitive decoders fix what each kind of field accepts:

* strings and booleans only as themselves;
* unsigned integers of a width (`unsigned`): an integer literal in range; a negative one or
  one past the width is an *invalid value*, a float an *invalid type*;
* doubles (`float`): any number, integers rounded to the nearest double;
* `option d`: `null` is absent, anything else goes to `d`;
* named alternatives (`choice`): a string naming one, or an object with that name as its one
  key and `null` as its value.

## Records

A record (`record`) is written as an object, or as an array of its fields in declaration
order. Its decoder is written once, field by field, in a `RecordM` block, and the block runs
over either layout. Which fault is reported when several fields are wrong is fixed by a rank:

* in an object, keys are visited in the order the object holds them (sorted, for a value read
  by `Json.Read`), and the first key whose value is wrong is reported; a repeated key is wrong
  at its second occurrence; only when every present field is right is a missing one reported,
  the first in declaration order;
* in an array, fields are visited in declaration order: a wrong item or a missing one is
  reported at its position, and items past the last field are reported after all of them.

Every field is decoded and every fault is collected with its rank; the least rank wins. That
is the same as stopping at the first fault, because no field's decoding depends on another.
-/

namespace QueryRelay

namespace Schema

/-- A reader of typed values out of JSON. -/
abbrev Decoder (α : Type) := Json → Except DecodeError α

namespace Decoder

/-- The fault for a value of the wrong shape. -/
def mismatch {α : Type} (j : Json) (expected : String) : Except DecodeError α :=
  .error (.invalidType (Found.ofJson j) expected)

/-- A string. -/
def string : Decoder String
  | .str s => .ok s
  | j => mismatch j "a string"

/-- A boolean. -/
def bool : Decoder Bool
  | .bool b => .ok b
  | j => mismatch j "a boolean"

/-- An unsigned integer below `bound`; `name` is the width's name in messages (`u64`). -/
def unsigned (bound : Nat) (name : String) : Decoder Nat
  | .num (.unsigned n) => if n < bound then .ok n else .error (.invalidValue (.unsigned n) name)
  | .num (.negative n) => .error (.invalidValue (.signed n) name)
  | j => mismatch j name

/-- A 64-bit unsigned integer. -/
def u64 : Decoder Nat := unsigned (Nat.pow 2 64) "u64"

/-- A 32-bit unsigned integer. -/
def u32 : Decoder Nat := unsigned (Nat.pow 2 32) "u32"

/-- A 16-bit unsigned integer. -/
def u16 : Decoder Nat := unsigned (Nat.pow 2 16) "u16"

/-- A size: an unsigned integer of the machine's 64-bit width. -/
def usize : Decoder Nat := unsigned (Nat.pow 2 64) "usize"

/-- A double; an integer is rounded to the nearest double. -/
def float : Decoder Float
  | .num (.unsigned n) => .ok (Decimal.ofNatNearest n)
  | .num (.negative n) => .ok (-(Decimal.ofNatNearest n.natAbs))
  | .num (.double x) => .ok x
  | j => mismatch j "f64"

/-- An optional value: `null` is absent. -/
def option {α : Type} (d : Decoder α) : Decoder (Option α)
  | .null => .ok none
  | j => some <$> d j

/-- An array of values. -/
def list {α : Type} (d : Decoder α) : Decoder (List α)
  | .arr items => items.mapM d
  | j => mismatch j "a sequence"

/-- The alternative an exact spelling names, from a table of spellings in the order a
diagnostic lists them. -/
def spelled {α : Type} (table : List (String × α)) (s : String) : Except DecodeError α :=
  match table.find? (fun e => e.1 == s) with
  | some e => .ok e.2
  | none => .error (.unknownVariant s (table.map Prod.fst))

/-- One of named alternatives without data: a string naming it, or an object whose one key
names it and whose value is `null`. -/
def choice {α : Type} (table : List (String × α)) : Decoder α
  | .str s => spelled table s
  | .obj [(k, v)] => do
    let a ← spelled table k
    match v with
    | .null => .ok a
    | other => mismatch other "unit"
  | .obj _ => .error (.invalidValue .map "map with a single key")
  | j => mismatch j "string or map"

/-- An object read as a map, keys through `key` and values through `value`, in the object's
order; each key is read before its value. -/
def entries {κ α : Type} (key : String → Except DecodeError κ) (value : Decoder α) :
    Decoder (List (κ × α))
  | .obj fields => fields.mapM (fun kv => do
      let k ← key kv.1
      let v ← value kv.2
      pure (k, v))
  | j => mismatch j "a map"

end Decoder

/-- How a record was written. -/
inductive RecordLayout where
  /-- As an object, fields in the order it holds them. -/
  | fields (fs : List (String × Json))
  /-- As an array of the field values in declaration order. -/
  | items (xs : List Json)

/-- A record being read: its layout, its declared field names in order, how messages name it
(`struct QueryRequest`), and the fault for an array with items past its last field, from the
array's length. -/
structure Record where
  layout : RecordLayout
  names : List String
  title : String
  surplus : Nat → DecodeError := fun n => .invalidLength n "fewer elements in array"

/-- A fault with its rank: the lesser pair is reported. -/
structure RankedFault where
  phase : Nat
  index : Nat
  fault : DecodeError

/-- Whether the first fault ranks strictly before the second. -/
def RankedFault.before (a b : RankedFault) : Bool :=
  a.phase < b.phase || (a.phase == b.phase && a.index < b.index)

/-- The fault of least rank; of equal ranks the earlier collected one. -/
def firstFault : List RankedFault → Option DecodeError
  | [] => none
  | f :: rest =>
    some (rest.foldl (fun best g => if g.before best then g else best) f).fault

/-- Reading a record's fields: faults are collected with their rank, and a wrong field
stands in with a default value so the others are still read. -/
abbrev RecordM (α : Type) := StateM (List RankedFault) α

namespace Record

/-- Position of a declared field. -/
def declIndex (r : Record) (name : String) : Nat := r.names.idxOf name

/-- What an array-written record of `n` fields is expected to be. -/
def arity (r : Record) : String :=
  let n := r.names.length
  s!"{r.title} with {n} " ++ (if n = 1 then "element" else "elements")

/-- Note a fault. -/
def note (phase index : Nat) (e : DecodeError) : RecordM Unit :=
  modify (fun fs => fs ++ [⟨phase, index, e⟩])

/-- The positions in an object's field list that hold a key. -/
def positions (fs : List (String × Json)) (name : String) : List (Nat × Json) :=
  ((List.range fs.length).zip fs).filterMap
    (fun p => if p.2.1 == name then some (p.1, p.2.2) else none)

/-- Read one field. `ifAbsent` is its value when an object lacks the key (`none`: the field is
required), `ifShort` its value when an array ends before it (`none`: the array is too
short). -/
def field {α : Type} [Inhabited α] (r : Record) (name : String) (d : Decoder α)
    (ifAbsent ifShort : Option α) : RecordM α :=
  let i := r.declIndex name
  match r.layout with
  | .fields fs =>
    match positions fs name with
    | [] =>
      match ifAbsent with
      | some a => pure a
      | none => do note 1 i (.missingField name); pure default
    | (k, j) :: rest => do
      match rest with
      | (k2, _) :: _ => note 0 k2 (.duplicateField name)
      | [] => pure ()
      match d j with
      | .ok a => pure a
      | .error e => do note 0 k e; pure default
  | .items xs =>
    match xs[i]? with
    | none =>
      match ifShort with
      | some a => pure a
      | none => do note 0 i (.invalidLength i r.arity); pure default
    | some j =>
      match d j with
      | .ok a => pure a
      | .error e => do note 0 i e; pure default

/-- A field that must be present. -/
def required {α : Type} [Inhabited α] (r : Record) (name : String) (d : Decoder α) : RecordM α :=
  r.field name d none none

/-- An optional field with no default: absent from an object it is `none`, but an array must
still hold it. -/
def optional {α : Type} (r : Record) (name : String) (d : Decoder α) : RecordM (Option α) :=
  r.field name (Decoder.option d) (some none) none

/-- A field with a default, used when an object lacks it or an array ends before it. -/
def withDefault {α : Type} [Inhabited α] (r : Record) (name : String) (d : Decoder α)
    (dflt : α) : RecordM α :=
  r.field name d (some dflt) (some dflt)

/-- Run a record's reading; an array with more items than fields is too long, reported after
every fault of its items. -/
def run {α : Type} (r : Record) (body : Record → RecordM α) : Except DecodeError α :=
  let extra : RecordM Unit :=
    match r.layout with
    | .items xs =>
      if r.names.length < xs.length then
        note 0 r.names.length (r.surplus xs.length)
      else pure ()
    | .fields _ => pure ()
  let (a, faults) := (do let a ← body r; extra; pure a : RecordM α).run []
  match firstFault faults with
  | some e => .error e
  | none => .ok a

end Record

namespace Decoder

/-- A record named `title` with declared fields `names`, read by `body` from an object or an
array. -/
def record {α : Type} (title : String) (names : List String) (body : Record → RecordM α) :
    Decoder α
  | .obj fs => Record.run { layout := .fields fs, names := names, title := title } body
  | .arr xs => Record.run { layout := .items xs, names := names, title := title } body
  | j => mismatch j title

end Decoder

end Schema

end QueryRelay
