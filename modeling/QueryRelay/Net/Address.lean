/-!
# IP addresses and socket addresses

Reading and writing IPv4 and IPv6 addresses in their standard text forms.

* An IPv4 address is four decimal octets separated by dots; an octet has one to three
  digits, no leading zero unless it is `0` itself, and is at most 255.
* An IPv6 address is eight groups of one to four hexadecimal digits separated by colons; one
  run of groups may be replaced by `::`, and the last two groups may be written as an IPv4
  address.
* A socket address is `ipv4:port` or `[ipv6]:port`, the IPv6 form optionally with a
  `%scope` before the bracket.

An IPv6 address is written (`Ipv6.render`) with each group in lowercase hexadecimal without
leading zeros and the longest run of two or more zero groups (the first of equal runs) as
`::`; an IPv4-mapped address (`::ffff:a.b.c.d`) is written with its IPv4 part dotted.
-/

namespace QueryRelay

namespace Net

/-- An IP address. -/
inductive IpAddress where
  | v4 (octets : List Nat)
  | v6 (groups : List Nat)
  deriving DecidableEq, Repr, Inhabited

/-- The value of a digit in a radix (10 or 16). -/
def digitValue (radix : Nat) (c : Char) : Option Nat :=
  if '0' ≤ c ∧ c ≤ '9' then some (c.toNat - '0'.toNat)
  else if radix = 16 ∧ 'a' ≤ c ∧ c ≤ 'f' then some (c.toNat - 'a'.toNat + 10)
  else if radix = 16 ∧ 'A' ≤ c ∧ c ≤ 'F' then some (c.toNat - 'A'.toNat + 10)
  else none

/-- The longest run of digits at the front: their values and the rest. -/
def spanDigits (radix : Nat) : List Char → List Nat × List Char
  | [] => ([], [])
  | c :: rest =>
    match digitValue radix c with
    | some d => let (ds, r) := spanDigits radix rest; (d :: ds, r)
    | none => ([], c :: rest)

/-- A number at the front: at least one digit, at most `maxDigits` if given, a value below
`bound`, and no leading zero when `zeroPrefix` is false. -/
def readNumber (radix : Nat) (maxDigits : Option Nat) (zeroPrefix : Bool) (bound : Nat)
    (cs : List Char) : Option (Nat × List Char) :=
  let (ds, rest) := spanDigits radix cs
  let value := ds.foldl (fun acc d => acc * radix + d) 0
  let tooLong : Bool := match maxDigits with
    | some m => decide (ds.length > m)
    | none => false
  if ds.isEmpty then none
  else if tooLong then none
  else if !zeroPrefix && ds.length > 1 && ds.head? = some 0 then none
  else if value ≥ bound then none
  else some (value, rest)

/-- Expect one character. -/
def expect (c : Char) : List Char → Option (List Char)
  | d :: rest => if c = d then some rest else none
  | [] => none

/-- An IPv4 address at the front. -/
def readIpv4 (cs : List Char) : Option (List Nat × List Char) := do
  let (a, cs) ← readNumber 10 (some 3) false 256 cs
  let cs ← expect '.' cs
  let (b, cs) ← readNumber 10 (some 3) false 256 cs
  let cs ← expect '.' cs
  let (c, cs) ← readNumber 10 (some 3) false 256 cs
  let cs ← expect '.' cs
  let (d, cs) ← readNumber 10 (some 3) false 256 cs
  pure ([a, b, c, d], cs)

/-- Colon-separated groups at the front, at most `limit` of them; the last two may be an IPv4
address. The groups read, whether an IPv4 address ended them, and the rest. -/
def readGroups (limit : Nat) (cs : List Char) : List Nat × Bool × List Char :=
  let rec go (i : Nat) (left : Nat) (acc : List Nat) (cs : List Char) :
      List Nat × Bool × List Char :=
    match left with
    | 0 => (acc, false, cs)
    | left + 1 =>
      let sep : Option (List Char) := if i = 0 then some cs else expect ':' cs
      let v4 : Option (List Nat × List Char) :=
        if left ≥ 1 then sep.bind readIpv4 else none
      match v4 with
      | some (o, rest) =>
        match o with
        | [a, b, c, d] => (acc ++ [a * 256 + b, c * 256 + d], true, rest)
        | _ => (acc, false, cs)
      | none =>
        match sep.bind (readNumber 16 (some 4) true 65536) with
        | some (g, rest) => go (i + 1) left (acc ++ [g]) rest
        | none => (acc, false, cs)
  go 0 limit [] cs

/-- An IPv6 address at the front, as eight groups. -/
def readIpv6 (cs : List Char) : Option (List Nat × List Char) :=
  let (head, v4, rest) := readGroups 8 cs
  if head.length = 8 then some (head, rest)
  else if v4 then none
  else do
    let rest ← expect ':' rest
    let rest ← expect ':' rest
    let (tail, _, rest) := readGroups (8 - (head.length + 1)) rest
    pure (head ++ List.replicate (8 - head.length - tail.length) 0 ++ tail, rest)

/-- The IP address of a socket address `ipv4:port` or `[ipv6%scope]:port`. -/
def parseSocketAddress (s : String) : Option IpAddress :=
  let cs := s.toList
  let asV4 : Option IpAddress := do
    let (o, rest) ← readIpv4 cs
    let rest ← expect ':' rest
    let (_, rest) ← readNumber 10 none true 65536 rest
    if rest.isEmpty then pure (.v4 o) else none
  let asV6 : Option IpAddress := do
    let rest ← expect '[' cs
    let (g, rest) ← readIpv6 rest
    let rest ← match rest with
      | '%' :: more => (readNumber 10 none true (Nat.pow 2 32) more).map Prod.snd
      | other => some other
    let rest ← expect ']' rest
    let rest ← expect ':' rest
    let (_, rest) ← readNumber 10 none true 65536 rest
    if rest.isEmpty then pure (.v6 g) else none
  asV4 <|> asV6

/-- Lowercase hexadecimal without leading zeros. -/
def hexText (n : Nat) : String := String.ofList (Nat.toDigits 16 n)

/-- Groups in hexadecimal separated by colons. -/
def groupsText (gs : List Nat) : String := ":".intercalate (gs.map hexText)

/-- The longest run of zeros (first of equal length): its start and length. -/
def longestZeroRun (gs : List Nat) : Nat × Nat :=
  let step (st : (Nat × Nat) × (Nat × Nat) × Nat) (g : Nat) :=
    let (best, cur, i) := st
    if g = 0 then
      let cur := if cur.2 = 0 then (i, 1) else (cur.1, cur.2 + 1)
      let best := if cur.2 > best.2 then cur else best
      (best, cur, i + 1)
    else (best, (0, 0), i + 1)
  (gs.foldl step ((0, 0), (0, 0), 0)).1

/-- The dotted form of four octets. -/
def dotted (o : List Nat) : String := ".".intercalate (o.map toString)

/-- The standard text of an IP address. -/
def IpAddress.render : IpAddress → String
  | .v4 o => dotted o
  | .v6 gs =>
    match gs with
    | [0, 0, 0, 0, 0, 0xffff, hi, lo] => "::ffff:" ++ dotted [hi / 256, hi % 256, lo / 256, lo % 256]
    | _ =>
      let (start, len) := longestZeroRun gs
      if len > 1 then groupsText (gs.take start) ++ "::" ++ groupsText (gs.drop (start + len))
      else groupsText gs

end Net

end QueryRelay
