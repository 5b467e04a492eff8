/-!
# JSON values with classified numbers

The gateway reads and writes JSON, and several of its answers depend on *how a number was
written*, not only on its value: `1` and `1.0` are both the number one, but a field of type
`u64` accepts the first and refuses the second with "invalid type: floating point `1.0`".
So a number keeps the class the reader gave it:

* `unsigned n` — a non-negative integer literal with `n < 2^64`;
* `negative n` — a negative integer literal with `-2^63 ≤ n < 0`;
* `double x` — everything else: a literal with a fraction or an exponent, an integer outside
  both ranges, and `-0`.

Objects are lists of fields kept **sorted by key, each key once**: the reader lets a repeated
key's last value win, and every traversal of an object (decoding, printing) goes in key order.
`Json.insert` is the one operation that maintains this, and `Json.object` builds an object from
any list of fields through it.
-/

namespace QueryRelay

/-- A JSON number together with the class its literal was read into. -/
inductive Number where
  /-- A non-negative integer below `2^64`. -/
  | unsigned (n : Nat)
  /-- A negative integer not below `-2^63`. -/
  | negative (n : Int)
  /-- A binary64 floating-point value. -/
  | double (x : Float)
  deriving Inhabited

/-- A JSON value; the fields of `obj` are sorted by key with no key twice. -/
inductive Json where
  | null
  | bool (b : Bool)
  | num (n : Number)
  | str (s : String)
  | arr (items : List Json)
  | obj (fields : List (String × Json))
  deriving Inhabited

namespace Json

/-- Put a field into a sorted field list, replacing the value of an equal key. -/
def insertField (k : String) (v : Json) : List (String × Json) → List (String × Json)
  | [] => [(k, v)]
  | (k', v') :: rest =>
    if k < k' then (k, v) :: (k', v') :: rest
    else if k = k' then (k, v) :: rest
    else (k', v') :: insertField k v rest

/-- An object from fields in any order; of two equal keys the later one wins. -/
def object (fields : List (String × Json)) : Json :=
  .obj (fields.foldl (fun acc kv => insertField kv.1 kv.2 acc) [])

/-- The value of a key in an object, if the value is an object holding it. -/
def field? (j : Json) (k : String) : Option Json :=
  match j with
  | .obj fields => (fields.find? (fun kv => kv.1 == k)).map Prod.snd
  | _ => none

/-- A key's value, with an absent key and an explicit `null` both read as `none`. -/
def given? (j : Json) (k : String) : Option Json :=
  match j.field? k with
  | some .null => none
  | other => other

/-- A natural number as an unsigned JSON integer. -/
def nat (n : Nat) : Json := .num (.unsigned n)

/-- An optional value, `null` when absent. -/
def opt {α : Type} (f : α → Json) : Option α → Json
  | some a => f a
  | none => .null

@[simp] theorem object_nil : object [] = .obj [] := rfl

@[simp] theorem insertField_nil (k : String) (v : Json) : insertField k v [] = [(k, v)] := rfl

end Json

end QueryRelay
