import QueryRelay.Text.Blank

/-!
# Timestamps in RFC 3339 form

A timestamp is a UTC date and time with nanoseconds. The proleptic Gregorian calendar is used
for every year from -262143 to 262142; a leap second is a second 59 whose nanoseconds reach
one second or more, and is written as second 60.

## Reading

The reader is lenient about layout and strict about values. It reads

* a year (up to four digits, or any number of digits after a sign), `-`, a month, `-`, a day
  (one or two digits each), then `T`, `t` or a space;
* an hour, `:`, a minute, `:`, a second (one or two digits each), and an optional fraction
  of a second after `.` (digits past the ninth are skipped);
* an offset: `Z`, `z`, `UTC` in any case, or a sign (`+`, `-` or the minus sign U+2212)
  with two digits of hours, colons or blanks, and two digits of minutes.

Blanks may stand before each number and before the offset, and after everything. The first
thing that does not fit decides the error: a character that cannot stand there (`invalid`), an
end where more is needed (`tooShort`), a number out of its range (`outOfRange`), or text left
after the offset (`tooLong`). A date that does not exist, an offset of a day or more, or a
result outside the calendar's years is `outOfRange` too. The time read is moved to UTC by
the offset.

## Writing

A timestamp is written `YYYY-MM-DDTHH:MM:SS` with a fraction of 3, 6 or 9 digits, the
fewest of those that show the nanoseconds exactly (none for a whole second), then `Z`. A year
outside 0 to 9999 gets a sign and at least four digits.
-/

namespace QueryRelay

namespace Time

/-- A UTC date and time. -/
structure Stamp where
  year : Int
  month : Nat
  day : Nat
  hour : Nat
  minute : Nat
  second : Nat
  /-- Nanoseconds within the second; one second or more marks a leap second. -/
  nano : Nat
  deriving DecidableEq, Repr, Inhabited

/-- Why a text is not a timestamp. -/
inductive StampError where
  | invalid
  | tooShort
  | tooLong
  | outOfRange
  deriving DecidableEq, Repr, Inhabited

/-- The text of a reading error. -/
def StampError.message : StampError → String
  | .invalid => "input contains invalid characters"
  | .tooShort => "premature end of input"
  | .tooLong => "trailing input"
  | .outOfRange => "input is out of range"

/-- The least and greatest year of the calendar. -/
def minYear : Int := -262143
def maxYear : Int := 262142

/-- Whether a year is a leap year. -/
def isLeapYear (y : Int) : Bool := (y % 4 = 0 && y % 100 ≠ 0) || y % 400 = 0

/-- The number of days of a month. -/
def daysInMonth (y : Int) (m : Nat) : Nat :=
  match m with
  | 2 => if isLeapYear y then 29 else 28
  | 4 | 6 | 9 | 11 => 30
  | _ => 31

/-- Days from 1970-01-01 to a date. -/
def daysFromCivil (y : Int) (m d : Nat) : Int :=
  let y := if m ≤ 2 then y - 1 else y
  let era := y / 400
  let yoe := y - era * 400
  let mp : Int := if m > 2 then (m : Int) - 3 else (m : Int) + 9
  let doy := (153 * mp + 2) / 5 + d - 1
  let doe := yoe * 365 + yoe / 4 - yoe / 100 + doy
  era * 146097 + doe - 719468

/-- The date a day count from 1970-01-01 falls on. -/
def civilFromDays (z : Int) : Int × Nat × Nat :=
  let z := z + 719468
  let era := z / 146097
  let doe := z - era * 146097
  let yoe := (doe - doe / 1460 + doe / 36524 - doe / 146096) / 365
  let doy := doe - (365 * yoe + yoe / 4 - yoe / 100)
  let mp := (5 * doy + 2) / 153
  let d := doy - (153 * mp + 2) / 5 + 1
  let m := if mp < 10 then mp + 3 else mp - 9
  let y := yoe + era * 400
  ((if m ≤ 2 then y + 1 else y), m.toNat, d.toNat)

/-- A local date and time moved back by an offset in seconds, into the calendar's range. -/
def shift (s : Stamp) (offsetSecs : Int) : Except StampError Stamp :=
  let total := daysFromCivil s.year s.month s.day * 86400 +
    (s.hour * 3600 + s.minute * 60 + s.second : Nat) - offsetSecs
  let days := total / 86400
  let secs := (total % 86400).toNat
  let (y, m, d) := civilFromDays days
  if y < minYear || y > maxYear then .error .outOfRange
  else .ok ⟨y, m, d, secs / 3600, secs / 60 % 60, secs % 60, s.nano⟩

/-- Text being read. -/
abbrev Input := List Char

/-- Drop leading blanks. -/
def skipBlanks (s : Input) : Input := s.dropWhile Text.isBlank

/-- The value of a decimal digit. -/
def digitValue (c : Char) : Nat := c.toNat - '0'.toNat

/-- Read at least one and at most `max` digits (`none`: no limit). -/
def number (s : Input) (max : Option Nat) : Except StampError (Nat × Input) :=
  match s with
  | [] => .error .tooShort
  | c :: _ =>
    if !c.isDigit then .error .invalid
    else
      let avail := s.takeWhile Char.isDigit
      let ds := match max with
        | some k => avail.take k
        | none => avail
      .ok (ds.foldl (fun acc c => acc * 10 + digitValue c) 0, s.drop ds.length)

/-- Read a number between `lo` and `hi` after blanks, of at most `width` digits. -/
def bounded (s : Input) (width lo hi : Nat) : Except StampError (Nat × Input) := do
  let (v, rest) ← number (skipBlanks s) (some width)
  if v < lo || v > hi then throw StampError.outOfRange
  pure (v, rest)

/-- Expect a literal character after blanks. -/
def literal (s : Input) (c : Char) : Except StampError Input :=
  match skipBlanks s with
  | [] => .error .tooShort
  | d :: rest => if d = c then .ok rest else .error .invalid

/-- Read a year: a sign and any number of digits, or up to four digits. -/
def readYear (s : Input) : Except StampError (Int × Input) := do
  let s := skipBlanks s
  let (v, rest) ← match s with
    | '-' :: t => do
      let (n, r) ← number t none
      pure (-(n : Int), r)
    | '+' :: t => do
      let (n, r) ← number t none
      pure ((n : Int), r)
    | _ => do
      let (n, r) ← number s (some 4)
      pure ((n : Int), r)
  if v < -(Nat.pow 2 31 : Int) || v ≥ (Nat.pow 2 31 : Int) then throw StampError.outOfRange
  pure (v, rest)

/-- Read a fraction of a second after `.`, as nanoseconds. -/
def readFraction (s : Input) : Except StampError (Nat × Input) :=
  match s with
  | '.' :: t => do
    let (v, r) ← number t (some 9)
    let used := t.length - r.length
    pure (v * Nat.pow 10 (9 - used), r.dropWhile Char.isDigit)
  | _ => .ok (0, s)

/-- Read an offset from UTC in seconds. -/
def readOffset (s : Input) : Except StampError (Int × Input) :=
  match s with
  | c :: rest =>
    if c = 'Z' || c = 'z' then .ok (0, rest)
    else if (s.take 3).map Char.toUpper = ['U', 'T', 'C'] then .ok (0, s.drop 3)
    else
      let sign : Option Int :=
        if c = '+' then some 1 else if c = '-' || c = '−' then some (-1) else none
      match sign with
      | none => .error .invalid
      | some sgn =>
        match rest with
        | h1 :: h2 :: t =>
          if !(h1.isDigit && h2.isDigit) then .error .invalid
          else
            let t := t.dropWhile (fun c => c = ':' || Text.isBlank c)
            match t with
            | m1 :: m2 :: u =>
              if m1.isDigit && m2.isDigit then
                if digitValue m1 ≥ 6 then .error .outOfRange
                else
                  let secs := (digitValue h1 * 10 + digitValue h2) * 3600 +
                    (digitValue m1 * 10 + digitValue m2) * 60
                  .ok (sgn * secs, u)
              else .error .invalid
            | _ => .error .tooShort
        | _ => .error .tooShort
  | [] => .error .tooShort

/-- Read a timestamp and move it to UTC. -/
def Stamp.parse (text : String) : Except StampError Stamp := do
  let s := text.toList
  let (y, s) ← readYear s
  let s ← literal s '-'
  let (mo, s) ← bounded s 2 1 12
  let s ← literal s '-'
  let (d, s) ← bounded s 2 1 31
  let s ← match s with
    | c :: rest => if c = 'T' || c = 't' || c = ' ' then pure rest else throw StampError.invalid
    | [] => throw StampError.tooShort
  let (h, s) ← bounded s 2 0 23
  let s ← literal s ':'
  let (mi, s) ← bounded s 2 0 59
  let s ← literal s ':'
  let (sec, s) ← bounded s 2 0 60
  let (nano, s) ← readFraction s
  let (off, s) ← readOffset (skipBlanks s)
  if !(skipBlanks s).isEmpty then throw StampError.tooLong
  if y < minYear || y > maxYear || d > daysInMonth y mo then throw StampError.outOfRange
  if off.natAbs ≥ 86400 then throw StampError.outOfRange
  let (sec, nano) := if sec = 60 then (59, nano + 1000000000) else (sec, nano)
  shift ⟨y, mo, d, h, mi, sec, nano⟩ off

/-- A number with at least `width` digits. -/
def padded (width n : Nat) : String :=
  let s := toString n
  String.ofList (List.replicate (width - s.length) '0') ++ s

/-- The RFC 3339 text of a timestamp. -/
def Stamp.render (s : Stamp) : String :=
  let yearText :=
    if 0 ≤ s.year && s.year ≤ 9999 then padded 4 s.year.toNat
    else (if s.year < 0 then "-" else "+") ++ padded 4 s.year.natAbs
  let (sec, nano) := if s.nano ≥ 1000000000 then (s.second + 1, s.nano - 1000000000)
    else (s.second, s.nano)
  let frac :=
    if nano = 0 then ""
    else if nano % 1000000 = 0 then "." ++ padded 3 (nano / 1000000)
    else if nano % 1000 = 0 then "." ++ padded 6 (nano / 1000)
    else "." ++ padded 9 nano
  yearText ++ "-" ++ padded 2 s.month ++ "-" ++ padded 2 s.day ++ "T" ++ padded 2 s.hour ++ ":" ++
    padded 2 s.minute ++ ":" ++ padded 2 sec ++ frac ++ "Z"

/-- The timestamp a number of milliseconds after 1970-01-01T00:00:00Z. -/
def Stamp.ofUnixMillis (ms : Nat) : Stamp :=
  let secs := ms / 1000
  let (y, m, d) := civilFromDays (secs / 86400 : Nat)
  let r := secs % 86400
  ⟨y, m, d, r / 3600, r / 60 % 60, r % 60, ms % 1000 * 1000000⟩

end Time

end QueryRelay
