import Novel.Json.Fault
import Novel.Decimal.Text

/-!
# Scanning JSON text

The pieces a JSON reader is made of, each a function from the rest of the input to a result
and the rest after it:

* blanks are the space, tab, line feed and carriage return;
* a string is read after its opening quote; the escapes are `\"`, `\\`, `\/`, `\b`, `\f`,
  `\n`, `\r`, `\t` and `\uXXXX`, where a high surrogate must be followed by an escaped low
  one; raw control characters are refused;
* `null`, `true` and `false` are read letter by letter;
* a number is an optional minus, one `0` or a digit run without a leading zero, then an
  optional fraction and an optional exponent, each with at least one digit;
* a value can be skipped whole, however deeply it nests, by keeping the open arrays and
  objects on a stack.

Escapes are four hexadecimal digits counted in bytes: when fewer than four bytes are left the
string ends too early, and otherwise a bad digit is reported four bytes on.
-/

namespace Novel.Json

def isBlank (c : Char) : Bool := c == ' ' || c == '\n' || c == '\t' || c == '\r'

def skipBlank (cs : List Char) : List Char := cs.dropWhile isBlank

/-- The character a one-letter escape stands for. -/
def shortEscape : Char → Option Char
  | '"' => some '"'
  | '\\' => some '\\'
  | '/' => some '/'
  | 'b' => some '\x08'
  | 'f' => some '\x0c'
  | 'n' => some '\n'
  | 'r' => some '\r'
  | 't' => some '\t'
  | _ => none

/-- The value of a hexadecimal digit. -/
def hexDigit? (c : Char) : Option Nat :=
  if '0' ≤ c && c ≤ '9' then some (c.toNat - '0'.toNat)
  else if 'a' ≤ c && c ≤ 'f' then some (c.toNat - 'a'.toNat + 10)
  else if 'A' ≤ c && c ≤ 'F' then some (c.toNat - 'A'.toNat + 10)
  else none

/-- The value of four hexadecimal digits. -/
def hexQuad? (a b c d : Char) : Option Nat := do
  let a ← hexDigit? a
  let b ← hexDigit? b
  let c ← hexDigit? c
  let d ← hexDigit? d
  return ((a * 16 + b) * 16 + c) * 16 + d

/-- The failure of an escape whose four digits do not start `cs`. -/
def quadFailure (cs : List Char) : ReadError :=
  if byteCount cs < 4 then .here .eofString [] else ⟨.invalidEscape, some ⟨cs, 4⟩⟩

def isHighSurrogate (n : Nat) : Bool := 0xD800 ≤ n && n ≤ 0xDBFF

def isLowSurrogate (n : Nat) : Bool := 0xDC00 ≤ n && n ≤ 0xDFFF

def pairChar (hi lo : Nat) : Char := Char.ofNat ((hi - 0xD800) * 0x400 + (lo - 0xDC00) + 0x10000)

/-- Read the rest of a string after its opening quote; `acc` holds the characters read so far,
last first. -/
def readString (acc : List Char) : List Char → Except ReadError (String × List Char)
  | [] => .error (.here .eofString [])
  | '"' :: rest => .ok (String.ofList acc.reverse, rest)
  | '\\' :: 'u' :: a :: b :: c :: d :: rest =>
    match hexQuad? a b c d with
    | none => .error (quadFailure (a :: b :: c :: d :: rest))
    | some n =>
      if isLowSurrogate n then .error (.here .loneLeadingSurrogate rest)
      else if isHighSurrogate n then
        match rest with
        | '\\' :: 'u' :: e :: f :: g :: h :: after =>
          match hexQuad? e f g h with
          | none => .error (quadFailure (e :: f :: g :: h :: after))
          | some m =>
            if isLowSurrogate m then readString (pairChar n m :: acc) after
            else .error (.here .loneLeadingSurrogate after)
        | '\\' :: 'u' :: after => .error (quadFailure after)
        | ['\\'] => .error (.here .eofString [])
        | '\\' :: after => .error (.next .unexpectedEndOfHexEscape after)
        | [] => .error (.here .eofString [])
        | other => .error (.next .unexpectedEndOfHexEscape other)
      else readString (Char.ofNat n :: acc) rest
  | '\\' :: 'u' :: rest => .error (quadFailure rest)
  | ['\\'] => .error (.here .eofString [])
  | '\\' :: e :: rest =>
    match shortEscape e with
    | some c => readString (c :: acc) rest
    | none => .error (.next .invalidEscape (e :: rest))
  | c :: rest =>
    if c.toNat < 0x20 then .error (.here .controlCharacter rest)
    else readString (c :: acc) rest

/-- Skip the rest of a string after its opening quote. Escapes are checked for their form
only. -/
def skipString : List Char → Except ReadError (List Char)
  | [] => .error (.here .eofString [])
  | '"' :: rest => .ok rest
  | '\\' :: 'u' :: a :: b :: c :: d :: rest =>
    match hexQuad? a b c d with
    | none => .error (quadFailure (a :: b :: c :: d :: rest))
    | some _ => skipString rest
  | '\\' :: 'u' :: rest => .error (quadFailure rest)
  | ['\\'] => .error (.here .eofString [])
  | '\\' :: e :: rest =>
    match shortEscape e with
    | some _ => skipString rest
    | none => .error (.next .invalidEscape (e :: rest))
  | c :: rest =>
    if c.toNat < 0x20 then .error (.here .controlCharacter (c :: rest))
    else skipString rest

/-- Read the remaining letters of `null`, `true` or `false`. -/
def readWord : List Char → List Char → Except ReadError (List Char)
  | [], cs => .ok cs
  | _ :: _, [] => .error (.here .eofValue [])
  | w :: ws, c :: cs => if c == w then readWord ws cs else .error (.next .expectedIdent (c :: cs))

/-! ## Numbers -/

def digitValue (c : Char) : Nat := c.toNat - '0'.toNat

def u64Max : Nat := Nat.pow 2 64 - 1

/-- `10^k` as the nearest double. -/
def powerOfTen (k : Nat) : Float :=
  let m := Nat.pow 5 k
  if m < Nat.pow 2 53 then (m.toUInt64.toFloat).scaleB k
  else
    let s := Nat.log2 m - 52
    let q := m >>> s
    let r := m - (q <<< s)
    let half := 1 <<< (s - 1)
    let q := if r > half || (r == half && q % 2 == 1) then q + 1 else q
    (q.toUInt64.toFloat).scaleB (k + s)

/-- The double of `significand * 10^exponent`, computed as one multiplication or division by a
power of ten, after dividing by `10^308` while the exponent is below `-308`. `none` when the
value overflows. -/
def fromParts (positive : Bool) (significand : Nat) (exponent : Int) : Option Float :=
  go ((-exponent).toNat / 308 + 2) significand.toUInt64.toFloat exponent
where
  go : Nat → Float → Int → Option Float
    | 0, f, _ => some (if positive then f else -f)
    | fuel + 1, f, e =>
      if e.natAbs ≤ 308 then
        if e ≥ 0 then
          let g := f * powerOfTen e.toNat
          if g.isInf then none else some (if positive then g else -g)
        else
          let g := f / powerOfTen e.natAbs
          some (if positive then g else -g)
      else if f == 0 then some (if positive then f else -f)
      else if e ≥ 0 then none
      else go fuel (f / powerOfTen 308) (e + 308)

/-- A number read from the text. -/
inductive Number where
  /-- A whole number that fits 64 bits, with its sign. -/
  | integer (n : Int)
  /-- Any other number, as a double. -/
  | float (f : Float)
  deriving Inhabited

/-- How a number is named when it stands where it should not. -/
def Number.found : Number → Found
  | .integer n => .integer n
  | .float f => .float (Decimal.floatText f)

/-- The double of a number, or the failure `numberOutOfRange` at the rest. -/
def floatAt (positive : Bool) (significand : Nat) (exponent : Int) (rest : List Char) :
    Except ReadError (Number × List Char) :=
  match fromParts positive significand exponent with
  | some f => .ok (.float f, rest)
  | none => .error (.here .numberOutOfRange rest)

def i32Max : Int := ((Nat.pow 2 31 - 1 : Nat) : Int)

def saturate (n : Int) : Int := max (-(Nat.pow 2 31 : Int)) (min i32Max n)

def skipDigits (cs : List Char) : List Char := cs.dropWhile Char.isDigit

/-- Read the digits of an exponent after its first digit; past 32 bits the exponent is zero
for a zero significand or a negative exponent, and out of range otherwise. -/
def readExponentDigits (positive : Bool) (significand : Nat) (start : Int) (expPositive : Bool) :
    Nat → List Char → Except ReadError (Number × List Char)
  | e, c :: rest =>
    if c.isDigit then
      let e' := e * 10 + digitValue c
      if e' > i32Max then
        if significand != 0 && expPositive then .error (.here .numberOutOfRange rest)
        else .ok (.float (if positive then 0.0 else -0.0), skipDigits rest)
      else readExponentDigits positive significand start expPositive e' rest
    else
      floatAt positive significand
        (if expPositive then saturate (start + e) else saturate (start - e)) (c :: rest)
  | e, [] =>
    floatAt positive significand (if expPositive then saturate (start + e) else saturate (start - e)) []

/-- Read an exponent after its `e` or `E`. -/
def readExponent (positive : Bool) (significand : Nat) (start : Int) (cs : List Char) :
    Except ReadError (Number × List Char) :=
  let (expPositive, cs) := match cs with
    | '+' :: rest => (true, rest)
    | '-' :: rest => (false, rest)
    | _ => (true, cs)
  match cs with
  | [] => .error (.here .eofValue [])
  | c :: rest =>
    if c.isDigit then readExponentDigits positive significand start expPositive (digitValue c) rest
    else .error (.next .invalidNumber (c :: rest))

/-- After the digits of a number, an optional exponent. -/
def readExponentPart (positive : Bool) (significand : Nat) (exponent : Int) :
    List Char → Except ReadError (Number × List Char)
  | c :: rest =>
    if c == 'e' || c == 'E' then readExponent positive significand exponent rest
    else floatAt positive significand exponent (c :: rest)
  | [] => floatAt positive significand exponent []

/-- Read the digits of a fraction, after the point. Digits past 64 bits of significand are
dropped. -/
def readFractionDigits (positive : Bool) (exponent : Int) :
    Nat → Nat → List Char → Except ReadError (Number × List Char)
  | significand, count, c :: rest =>
    if c.isDigit then
      let next := significand * 10 + digitValue c
      if next > u64Max then
        readExponentPart positive significand (exponent - count) (skipDigits (c :: rest))
      else readFractionDigits positive exponent next (count + 1) rest
    else if count == 0 then .error (.next .invalidNumber (c :: rest))
    else readExponentPart positive significand (exponent - count) (c :: rest)
  | significand, count, [] =>
    if count == 0 then .error (.here .eofValue [])
    else floatAt positive significand (exponent - count) []

/-- After the whole digits of a number: a fraction, an exponent or the end. -/
def readNumberEnd (positive : Bool) (significand : Nat) (exponent : Int) (wide : Bool) :
    List Char → Except ReadError (Number × List Char)
  | '.' :: rest => readFractionDigits positive exponent significand 0 rest
  | c :: rest =>
    if c == 'e' || c == 'E' then readExponent positive significand exponent rest
    else if wide then floatAt positive significand exponent (c :: rest)
    else .ok (wholeNumber positive significand, c :: rest)
  | [] => if wide then floatAt positive significand exponent [] else .ok (wholeNumber positive significand, [])
where
  /-- A whole number: negative zero and values below the 64-bit range are doubles. -/
  wholeNumber (positive : Bool) (n : Nat) : Number :=
    if positive then .integer n
    else if n == 0 || n > Nat.pow 2 63 then .float (-(n.toUInt64.toFloat))
    else .integer (-(n : Int))

/-- Read whole digits after the first; past 64 bits the further digits only raise the
exponent. -/
def readWholeDigits (positive : Bool) : Nat → List Char → Except ReadError (Number × List Char)
  | significand, c :: rest =>
    if c.isDigit then
      let next := significand * 10 + digitValue c
      if next > u64Max then
        let more := (c :: rest).takeWhile Char.isDigit
        readNumberEnd positive significand more.length true ((c :: rest).drop more.length)
      else readWholeDigits positive next rest
    else readNumberEnd positive significand 0 false (c :: rest)
  | significand, [] => readNumberEnd positive significand 0 false []

/-- Read a number whose sign, if any, is already read. -/
def readNumber (positive : Bool) : List Char → Except ReadError (Number × List Char)
  | [] => .error (.here .eofValue [])
  | '0' :: rest =>
    match rest with
    | c :: _ => if c.isDigit then .error (.next .invalidNumber rest) else readNumberEnd positive 0 0 false rest
    | [] => readNumberEnd positive 0 0 false []
  | c :: rest =>
    if c.isDigit then readWholeDigits positive (digitValue c) rest
    else .error (.next .invalidNumber (c :: rest))

/-- Skip the digits of an exponent, after its `e` or `E`. -/
def skipExponent (cs : List Char) : Except ReadError (List Char) :=
  let cs := match cs with
    | '+' :: rest => rest
    | '-' :: rest => rest
    | _ => cs
  match cs with
  | c :: rest => if c.isDigit then .ok (skipDigits rest) else .error (.next .invalidNumber (c :: rest))
  | [] => .error (.here .invalidNumber [])

/-- Skip a number whose sign, if any, is already read. -/
def skipNumber (cs : List Char) : Except ReadError (List Char) := do
  let rest ← match cs with
    | '0' :: rest =>
      match rest with
      | c :: _ => if c.isDigit then throw (.next .invalidNumber rest) else pure rest
      | [] => pure []
    | c :: rest => if c.isDigit then pure (skipDigits rest) else throw (.next .invalidNumber (c :: rest))
    | [] => throw (.here .invalidNumber [])
  match rest with
  | '.' :: after =>
    match after with
    | c :: _ =>
      if c.isDigit then
        match skipDigits after with
        | e :: more => if e == 'e' || e == 'E' then skipExponent more else pure (e :: more)
        | [] => pure []
      else throw (.next .invalidNumber after)
    | [] => throw (.here .invalidNumber [])
  | e :: after => if e == 'e' || e == 'E' then skipExponent after else pure (e :: after)
  | [] => pure []

/-! ## Whole values -/

/-- An array or object that is open while skipping. -/
inductive Frame where
  | array
  | object
  deriving DecidableEq, Repr, Inhabited

/-- The character that closes a frame. -/
def Frame.closer : Frame → Char
  | .array => ']'
  | .object => '\x7d'

/-- Skip one scalar, or open a frame. -/
def skipStart (cs : List Char) : Except ReadError (Option Frame × List Char) :=
  match skipBlank cs with
  | [] => .error (.next .eofValue [])
  | 'n' :: rest => do return (none, ← readWord ['u', 'l', 'l'] rest)
  | 't' :: rest => do return (none, ← readWord ['r', 'u', 'e'] rest)
  | 'f' :: rest => do return (none, ← readWord ['a', 'l', 's', 'e'] rest)
  | '-' :: rest => do return (none, ← skipNumber rest)
  | '"' :: rest => do return (none, ← skipString rest)
  | '[' :: rest => .ok (some .array, rest)
  | '{' :: rest => .ok (some .object, rest)
  | c :: rest =>
    if c.isDigit then do return (none, ← skipNumber (c :: rest))
    else .error (.next .expectedValue (c :: rest))

/-- Skip a key and its colon inside an object. -/
def skipKey (cs : List Char) : Except ReadError (List Char) := do
  let rest ← match skipBlank cs with
    | '"' :: rest => skipString rest
    | [] => throw (.next .eofObject [])
    | other => throw (.next .keyMustBeString other)
  match skipBlank rest with
  | ':' :: after => pure after
  | [] => throw (.next .eofObject [])
  | other => throw (.next .expectedColon other)

/-- Where skipping stands after a value or an opening bracket: either every frame is closed
and the value ends before the rest, or the next value starts, inside the given frames. -/
inductive Skipped where
  | done (rest : List Char)
  | more (stack : List Frame) (rest : List Char)
  deriving Inhabited

/-- What comes after a value or an opening bracket, with `frame` the innermost open frame and
`stack` those around it; `afterValue` tells whether a value was just read, so that a comma may
follow. Closing brackets are taken until the next value starts or the last frame closes. -/
def skipClose (afterValue : Bool) (frame : Frame) (stack : List Frame) (cs : List Char) :
    Except ReadError Skipped :=
  go stack.length afterValue frame stack cs
where
  go : Nat → Bool → Frame → List Frame → List Char → Except ReadError Skipped
    | fuel, afterValue, frame, stack, cs =>
      match skipBlank cs with
      | [] => .error (.next (if frame == .array then .eofList else .eofObject) [])
      | c :: rest =>
        if c == ',' && afterValue then
          if frame == .object then do
            let after ← skipKey rest
            return .more (frame :: stack) after
          else .ok (.more (frame :: stack) rest)
        else if c == frame.closer then
          match stack, fuel with
          | [], _ => .ok (.done rest)
          | outer :: more, fuel' + 1 => go fuel' true outer more rest
          | _ :: _, 0 => .ok (.done rest)
        else if afterValue then
          .error (.next (if frame == .array then .expectedListCommaOrEnd
            else .expectedObjectCommaOrEnd) (c :: rest))
        else if frame == .object then do
          let after ← skipKey (c :: rest)
          return .more (frame :: stack) after
        else .ok (.more (frame :: stack) (c :: rest))

/-- Skip one whole value, however deeply nested. Each round reads at least one character, so
the length of the input bounds the rounds. -/
def skipValue (cs : List Char) : Except ReadError (List Char) :=
  go (cs.length + 1) [] cs
where
  go : Nat → List Frame → List Char → Except ReadError (List Char)
    | 0, _, cs => .error (.here .eofValue cs)
    | fuel + 1, stack, cs => do
      let (opened, rest) ← skipStart cs
      let next ← match opened, stack with
        | some frame, _ => skipClose false frame stack rest
        | none, [] => pure (.done rest)
        | none, frame :: outer => skipClose true frame outer rest
      match next with
      | .done after => pure after
      | .more stack after => go fuel stack after

end Novel.Json
