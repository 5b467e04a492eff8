import QueryRelay.Http.Headers
import QueryRelay.Net.Address

/-!
# Who is asking

Requests are limited per client, and a client is named by the first of these that gives a
non-empty name (`clientId`):

1. the first `x-forwarded-for` value, if it is visible ASCII: the text before its first comma,
   without surrounding blanks;
2. the first `x-real-ip` value, if it is visible ASCII, without surrounding blanks;
3. the peer's IP address in its standard text;
4. `unknown`.
-/

namespace QueryRelay

namespace Http

/-- The text of the first listed address of a forwarding header. -/
def firstForwarded (v : String) : String :=
  Text.trim (String.ofList (v.toList.takeWhile (· ≠ ',')))

/-- A header value as a client name: visible ASCII and non-empty once processed. -/
def nameFrom (v : Option String) (shape : String → String) : Option String :=
  match v with
  | some s => if isVisibleAscii s then (let n := shape s; if n.isEmpty then none else some n) else none
  | none => none

/-- The name of the client a request comes from. -/
def clientId (h : Headers) (peer : Option Net.IpAddress) : String :=
  match nameFrom (h.get? "x-forwarded-for") firstForwarded with
  | some n => n
  | none =>
    match nameFrom (h.get? "x-real-ip") Text.trim with
    | some n => n
    | none =>
      match peer with
      | some ip => ip.render
      | none => "unknown"

end Http

end QueryRelay
