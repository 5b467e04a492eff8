import QueryRelay.Http.Headers

/-!
# Media types

A request body is read as JSON only when its `content-type` names a JSON media type: the type
`application` with the subtype `json` or a subtype whose suffix (the part after its last `+`)
is `json`, in any case, with any parameters. A `+` that opens the subtype does not start a
suffix.

The value must be visible ASCII and a well-formed media type: a non-empty type token, `/`, a
subtype of tokens (with `+` inside it), and optionally `;` and parameters. A parameter is a
token name, `=`, and a token value or a quoted value; a space may open a parameter, and
parameters are separated by `;`. Anything else, a space before `;` among it, makes the value
no media type at all.
-/

namespace QueryRelay

namespace Http

/-- A media type: its type, its subtype, and the suffix of the subtype if it has one. -/
structure MediaType where
  type : String
  subtype : String
  suffix : Option String
  deriving DecidableEq, Repr, Inhabited

/-- Whether a character may stand inside a quoted parameter value. -/
def isQuotedChar (c : Char) : Bool := c.toNat > 31 && c.toNat ≠ 127

/-- Whether the parameters after a `;` are well formed. -/
def paramsWellFormed (cs : List Char) : Bool :=
  go cs.length cs
where
  /-- The parameters, with fuel for the loop over them. -/
  go : Nat → List Char → Bool
  | 0, _ => true
  | _, [] => true
  | fuel + 1, ' ' :: rest => go fuel rest
  | fuel + 1, cs =>
    let name := cs.takeWhile isTokenChar
    match cs.drop name.length with
    | '=' :: afterEq =>
      if name.isEmpty then false
      else
        match afterEq with
        | '"' :: quoted =>
          let body := quoted.takeWhile (fun c => c ≠ '"')
          match quoted.drop body.length with
          | '"' :: after =>
            if body.isEmpty || !body.all isQuotedChar then false
            else
              let after := after.dropWhile (· = ' ')
              match after with
              | [] => true
              | ';' :: more => go fuel more
              | _ => false
          | _ => false
        | _ =>
          let value := afterEq.takeWhile isTokenChar
          match afterEq.drop value.length with
          | [] => true
          | ';' :: more => if value.isEmpty then false else go fuel more
          | _ => false
    | _ => false

/-- Read a media type. -/
def MediaType.parse? (s : String) : Option MediaType :=
  let cs := s.toList
  let ty := cs.takeWhile isTokenChar
  match cs.drop ty.length with
  | '/' :: rest =>
    if ty.isEmpty then none
    else
      let sub := rest.takeWhile isTokenChar
      let lower (x : List Char) := lowerName (String.ofList x)
      -- the suffix follows the last `+` that is not the subtype's first character
      let tail := sub.reverse.takeWhile (· ≠ '+')
      let suffix := if tail.length + 1 < sub.length then some (lower tail.reverse) else none
      let mt : MediaType := ⟨lower ty, lower sub, suffix⟩
      match rest.drop sub.length with
      | [] => if sub.isEmpty then none else some mt
      | ';' :: params => if !sub.isEmpty && paramsWellFormed params then some mt else none
      | _ => none
  | _ => none

/-- Whether a media type is JSON. -/
def MediaType.isJson (m : MediaType) : Bool :=
  m.type == "application" && (m.subtype == "json" || m.suffix == some "json")

/-- Whether a request's headers declare a JSON body. -/
def declaresJson (h : Headers) : Bool :=
  match h.get? "content-type" with
  | some v => isVisibleAscii v && ((MediaType.parse? v).map MediaType.isJson).getD false
  | none => false

end Http

end QueryRelay
