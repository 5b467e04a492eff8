import QueryRelay.Failure
import QueryRelay.Schema.Decoder

/-!
# Answers of the command interface

Each command ends with an answer, or with a `Halt`: a failure of the gateway, a value that
does not fit its type, a crash, or an input the interface cannot read. A halt is answered
with an object that names its class under `error` and its text under `message`; a failure
that carries a classified fault also shows the fault's kind, code, provider and retry flag,
and a failure after a fallback the providers it tried.
-/

namespace QueryRelay

namespace Command

/-- How a command ends without its regular answer. -/
inductive Halt where
  | failure (e : Failure)
  | decode (e : Schema.DecodeError)
  | crash (c : Crash)
  | badInput (message : String)
  | invalidHeaderName
  | invalidHeaderValue
  deriving Inhabited

/-- The answer for a failure. -/
def failureAnswer (e : Failure) : Json :=
  let base := [("error", Json.str e.className), ("message", Json.str e.message)]
  let fault := match e.fault? with
    | some f => [("kind", f.kind.toJson), ("code", Json.nat f.code),
        ("provider", Json.opt Provider.toJson f.provider), ("retryable", Json.bool f.retryable)]
    | none => []
  let tried := match e with
    | .exhausted ps _ => [("attempted", Json.arr (ps.map Provider.toJson))]
    | _ => []
  Json.object (base ++ fault ++ tried)

/-- An answer naming a class of halt and its text. -/
def namedAnswer (name message : String) : Json :=
  Json.object [("error", Json.str name), ("message", Json.str message)]

/-- The answer for a halt. -/
def Halt.toJson : Halt → Json
  | .failure e => failureAnswer e
  | .decode e => namedAnswer "Deserialize" e.message
  | .crash c => namedAnswer "Panic" c.message
  | .badInput m => namedAnswer "BadInput" m
  | .invalidHeaderName => namedAnswer "InvalidHeaderName" "invalid HTTP header name"
  | .invalidHeaderValue => namedAnswer "InvalidHeaderValue" "failed to parse header value"

/-- A command's result: its answer or a halt. -/
abbrev Reply := Except Halt Json

/-- The answer a reply stands for. -/
def Reply.answer (r : Reply) : Json :=
  match r with
  | .ok j => j
  | .error h => h.toJson

/-- Lift a decoding result. -/
def decoded {α : Type} (r : Except Schema.DecodeError α) : Except Halt α :=
  r.mapError Halt.decode

/-- Lift a gateway result. -/
def gateway {α : Type} (r : Except Failure α) : Except Halt α :=
  r.mapError Halt.failure

/-- Lift a result that may crash. -/
def crashing {α : Type} (r : Except Crash α) : Except Halt α :=
  r.mapError Halt.crash

/-- A gateway result as an answer: its value, or the failure's answer. -/
def failureOr {α : Type} (f : α → Json) : Except Failure α → Json
  | .ok a => f a
  | .error e => failureAnswer e

/-- The answer for an unreadable input. -/
def bad {α : Type} (message : String) : Except Halt α := .error (.badInput message)

/-- A field of a command's input: absent and `null` are the same. -/
def arg (input : Json) (key : String) : Option Json := input.given? key

/-- A required string field. -/
def needString (input : Json) (key : String) : Except Halt String :=
  match arg input key with
  | some (.str s) => .ok s
  | _ => bad s!"field {key} must be a string"

/-- An optional string field. -/
def optString (input : Json) (key : String) : Except Halt (Option String) :=
  match arg input key with
  | none => .ok none
  | some (.str s) => .ok (some s)
  | _ => bad s!"field {key} must be a string"

/-- An optional unsigned integer field. -/
def optNat (input : Json) (key : String) : Except Halt (Option Nat) :=
  match arg input key with
  | none => .ok none
  | some (.num (.unsigned n)) => .ok (some n)
  | _ => bad s!"field {key} must be an unsigned integer"

/-- An optional boolean field. -/
def optBool (input : Json) (key : String) : Except Halt (Option Bool) :=
  match arg input key with
  | none => .ok none
  | some (.bool b) => .ok (some b)
  | _ => bad s!"field {key} must be a boolean"

/-- An optional array field; absent is empty. -/
def optList (input : Json) (key : String) : Except Halt (List Json) :=
  match arg input key with
  | none => .ok []
  | some (.arr xs) => .ok xs
  | _ => bad s!"field {key} must be an array"

/-- A provider given by its wire name. -/
def needProvider (j : Json) : Except Halt Provider :=
  match j with
  | .str s =>
    match Provider.ofWireName? s with
    | some p => .ok p
    | none => bad s!"unknown provider {s}"
  | _ => bad "a provider must be a string"

/-- An optional provider field. -/
def optProvider (input : Json) (key : String) : Except Halt (Option Provider) :=
  match arg input key with
  | none => .ok none
  | some j => some <$> needProvider j

end Command

end QueryRelay
