import QueryRelay.Text.Blank

/-!
# Request headers

A header name is a non-empty token: letters, digits and ``!#$%&'*+-.^_`|~``; it is compared
without regard to ASCII case and kept lowercased. A header value may hold any character but
the control characters other than the tab (and DEL). A name may be repeated; every value is
kept, and a lookup returns the first.

A value is *visible ASCII* when it holds only the tab and the printable ASCII characters; only
such a value can be read as text.
-/

namespace QueryRelay

namespace Http

/-- Why a header cannot be built. -/
inductive HeaderError where
  | invalidName
  | invalidValue
  deriving DecidableEq, Repr, Inhabited

/-- Whether a character may stand in a header name. -/
def isTokenChar (c : Char) : Bool :=
  c.isAlphanum || "!#$%&\x27*+-.^_\x60|~".toList.contains c

/-- Whether a character may stand in a header value. -/
def isValueChar (c : Char) : Bool :=
  c = '\t' || (c.toNat ≥ 0x20 && c.toNat ≠ 0x7F)

/-- Whether a value is visible ASCII. -/
def isVisibleAscii (s : String) : Bool :=
  s.all (fun c => c = '\t' || (0x20 ≤ c.toNat && c.toNat < 0x7F))

/-- Lowercase the ASCII letters of a name. -/
def lowerName (s : String) : String := String.map Char.toLower s

/-- Request headers: lowercased names with their values, in order. -/
structure Headers where
  entries : List (String × String) := []
  deriving DecidableEq, Repr, Inhabited

namespace Headers

/-- Build headers from name–value pairs in order, refusing the first bad name or value. -/
def build (pairs : List (String × String)) : Except HeaderError Headers := do
  let es ← pairs.mapM (fun p =>
    if p.1.isEmpty || !p.1.all isTokenChar then .error .invalidName
    else if !p.2.all isValueChar then .error .invalidValue
    else .ok (lowerName p.1, p.2))
  pure ⟨es⟩

/-- The first value of a name. -/
def get? (h : Headers) (name : String) : Option String :=
  (h.entries.find? (fun e => e.1 == name)).map Prod.snd

end Headers

end Http

end QueryRelay
