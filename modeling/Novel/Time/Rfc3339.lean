import Novel.Time.Calendar
import Novel.Text.Cell

/-!
# RFC 3339 timestamps

**Writing.** An instant is written in UTC as `YYYY-MM-DDThh:mm:ssZ`. Years from 0 to 9999 take
four digits; other years are signed and take at least four digits. Fractions of a second
appear only when they are not zero, with three, six or nine digits, the fewest that are exact.
A leap second is written as second 60.

**Reading** is relaxed. The date and the time may be separated by `T`, `t` or a space; blanks
may stand before every number and around the separators `-` and `:`; the fraction takes up to
nine digits and ignores further ones; the offset is `Z`, `z`, `UTC` in any case, or a sign
(`+`, `-` or the minus sign U+2212) with hours and minutes, optionally separated by colons or
blanks. Blanks may follow. Each field is checked as soon as it is read, then the date, then
the time, then the offset. A local date and time that is valid but whose instant, once the
offset is taken off, falls outside the calendar matches no instant: that is not an out-of-range
input but an impossible one.

Failures are of six kinds, each with its message.
-/

namespace Novel.Time

/-- Why a timestamp cannot be read. -/
inductive TimeError where
  | outOfRange
  | impossible
  | notEnough
  | invalid
  | tooShort
  | tooLong
  deriving DecidableEq, Repr, Inhabited

/-- The message of a reading failure. -/
def TimeError.message : TimeError → String
  | .outOfRange => "input is out of range"
  | .impossible => "no possible date and time matching input"
  | .notEnough => "input is not enough for unique date and time"
  | .invalid => "input contains invalid characters"
  | .tooShort => "premature end of input"
  | .tooLong => "trailing input"

/-! ## Writing -/

/-- Decimal digits of `n`, padded with zeros to at least `w` digits. -/
def padded (w n : Nat) : String :=
  let ds := Nat.toDigits 10 n
  String.ofList (List.replicate (w - ds.length) '0' ++ ds)

/-- The fraction of a second, with 3, 6 or 9 digits, or nothing when it is zero. -/
def fraction (nano : Nat) : String :=
  if nano == 0 then ""
  else if nano % 1000000 == 0 then "." ++ padded 3 (nano / 1000000)
  else if nano % 1000 == 0 then "." ++ padded 6 (nano / 1000)
  else "." ++ padded 9 nano

/-- The year, four digits from 0 to 9999 and signed otherwise. -/
def yearText (y : Int) : String :=
  if 0 ≤ y && y ≤ 9999 then padded 4 y.toNat
  else (if y < 0 then "-" else "+") ++ padded 4 y.natAbs

/-- The RFC 3339 text of an instant, in UTC. -/
def Instant.rfc3339 (t : Instant) : String :=
  let d := t.date
  let (sec, nano) := if t.nano ≥ 1000000000 then (t.second + 1, t.nano - 1000000000)
    else (t.second, t.nano)
  let h := t.second / 3600
  let m := t.second / 60 % 60
  let s := sec - h * 3600 - m * 60
  yearText d.year ++ "-" ++ padded 2 d.month ++ "-" ++ padded 2 d.day ++ "T" ++
    padded 2 h ++ ":" ++ padded 2 m ++ ":" ++ padded 2 s ++ fraction nano ++ "Z"

/-! ## Reading -/

def digitValue (c : Char) : Nat := c.toNat - '0'.toNat

/-- Read one to `hi` ASCII digits. The value must fit a signed 64-bit integer. -/
def digits (hi : Nat) : List Char → Except TimeError (Nat × List Char)
  | [] => .error .tooShort
  | c :: rest => if c.isDigit then go 1 (digitValue c) rest else .error .invalid
where
  go (count acc : Nat) : List Char → Except TimeError (Nat × List Char)
    | c :: rest =>
      if count < hi && c.isDigit then
        let acc := acc * 10 + digitValue c
        if acc ≥ Nat.pow 2 63 then .error .outOfRange else go (count + 1) acc rest
      else .ok (acc, c :: rest)
    | [] => .ok (acc, [])

/-- Expect a literal character. -/
def literal (c : Char) : List Char → Except TimeError (List Char)
  | [] => .error .tooShort
  | d :: rest => if d == c then .ok rest else .error .invalid

/-- Read an unsigned field of up to `w` digits, after optional blanks, and check its range. -/
def field (w lo hi : Nat) (cs : List Char) : Except TimeError (Nat × List Char) := do
  let (v, rest) ← digits w (Text.trimStart cs)
  if v < lo || v > hi then throw .outOfRange
  return (v, rest)

/-- Read the year: four digits, or a sign and any number of digits. -/
def yearField (cs : List Char) : Except TimeError (Int × List Char) := do
  let cs := Text.trimStart cs
  let (v, rest) ← match cs with
    | '-' :: rest => do let (n, r) ← digits rest.length rest; pure (-(n : Int), r)
    | '+' :: rest => do let (n, r) ← digits rest.length rest; pure ((n : Int), r)
    | _ => do let (n, r) ← digits 4 cs; pure ((n : Int), r)
  if v < -(Nat.pow 2 31 : Int) || v ≥ (Nat.pow 2 31 : Int) then throw .outOfRange
  return (v, rest)

/-- Read an optional fraction: a point and up to nine digits, further digits ignored. -/
def fractionField (cs : List Char) : Except TimeError (Option Nat × List Char) :=
  match cs with
  | '.' :: rest => do
    let (v, after) ← digits 9 rest
    let used := rest.length - after.length
    let scaled := v * Nat.pow 10 (9 - used)
    return (some scaled, after.dropWhile Char.isDigit)
  | _ => .ok (none, cs)

/-- Two ASCII digits at the front, or the failure when there are none. -/
def twoDigits (cs : List Char) : Except TimeError (Char × Char × List Char) :=
  match cs with
  | a :: b :: rest => .ok (a, b, rest)
  | [a] => if a.utf8Size ≥ 2 then .error .invalid else .error .tooShort
  | [] => .error .tooShort

/-- Read the offset from UTC, in seconds. -/
def offsetField (cs : List Char) : Except TimeError (Int × List Char) := do
  let upper := (cs.take 3).map Char.toUpper
  if upper == ['U', 'T', 'C'] then return (0, cs.drop 3)
  match cs with
  | 'Z' :: rest => return (0, rest)
  | 'z' :: rest => return (0, rest)
  | c :: rest =>
    let negative ←
      if c == '+' then pure false
      else if c == '-' || c.toNat == 0x2212 then pure true
      else throw .invalid
    let (h1, h2, rest) ← twoDigits rest
    if !(h1.isDigit && h2.isDigit) then throw .invalid
    let rest := rest.dropWhile (fun c => c == ':' || Text.isBlank c)
    let (m1, m2, rest) ← twoDigits rest
    if !m2.isDigit || !m1.isDigit then throw .invalid
    if digitValue m1 ≥ 6 then throw .outOfRange
    let secs : Int := (digitValue h1 * 10 + digitValue h2) * 3600 + (digitValue m1 * 10 + digitValue m2) * 60
    return (if negative then -secs else secs, rest)
  | [] => throw .tooShort

/-- Read a timestamp. -/
def readInstant (s : String) : Except TimeError Instant := do
  let cs := s.toList
  let (year, cs) ← yearField cs
  let cs ← literal '-' (Text.trimStart cs)
  let (month, cs) ← field 2 1 12 cs
  let cs ← literal '-' (Text.trimStart cs)
  let (day, cs) ← field 2 1 31 cs
  let cs ← match cs with
    | c :: rest => if c == 'T' || c == 't' || c == ' ' then pure rest else throw .invalid
    | [] => throw .tooShort
  let (hour, cs) ← field 2 0 23 cs
  let cs ← literal ':' (Text.trimStart cs)
  let (minute, cs) ← field 2 0 59 cs
  let cs ← literal ':' (Text.trimStart cs)
  let (second, cs) ← field 2 0 60 cs
  let (nano, cs) ← fractionField cs
  let cs := Text.trimStart cs
  let (offset, cs) ← offsetField cs
  if !(Text.trimStart cs).isEmpty then throw .tooLong
  -- the date, then the time, then the offset
  let date : Date := ⟨year, month, day⟩
  if !date.valid || year < minYear || year > maxYear then throw .outOfRange
  let (secondOfMinute, leap) := if second == 60 then (59, 1000000000) else (second, 0)
  let t := Instant.ofLocal date (hour * 3600 + minute * 60 + secondOfMinute) (leap + nano.getD 0)
    offset
  if offset ≤ -86400 || offset ≥ 86400 then throw .outOfRange
  -- a local time that exists but whose instant falls outside the calendar matches no instant
  if !t.inRange then throw .impossible
  return t

example : Instant.epoch.rfc3339 = "1970-01-01T00:00:00Z" := by decide

end Novel.Time
