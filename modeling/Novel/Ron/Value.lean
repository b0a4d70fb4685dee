import Novel.Ron.Cursor

/-!
# Reading RON: values

Integers, strings and option brackets, as the configuration's fields need them, and a reader
that skips any value whole, for fields the configuration does not know.

* An integer is a run of hexadecimal digits and underscores, optionally behind `0x`, `0b` or
  `0o`. The whole run is taken before its value is checked, so a bad digit or an overflow is
  reported after the run.
* A string is quoted, with the escapes `\'`, `\"`, `\\`, `\n`, `\r`, `\t`, `\0`, `\xHH` and
  `\u{H…}` (one to six digits), or raw: `r`, some `#`, a quote, and the text up to a quote
  followed by as many `#`.
* A float is a run of digits, `.`, `e`, `E`, signs and underscores; an underscore in it is
  refused where it stands.
* Nesting is bounded by 128 guards. Reading a sequence, tuple, map, struct or option takes one
  guard while its inside is read, and so does each element, key and value inside it: a
  sequence within a sequence takes two. Taking a guard when none is left fails there.
-/

namespace Novel.Ron

def isIntChar (c : Char) : Bool := (c.isDigit) || ('a' ≤ c && c ≤ 'f') || ('A' ≤ c && c ≤ 'F') || c == '_'

def isFloatChar (c : Char) : Bool :=
  c.isDigit || c == 'e' || c == 'E' || c == '.' || c == '+' || c == '-' || c == '_'

/-- The value of a hexadecimal digit. -/
def hexValue? (c : Char) : Option Nat :=
  if c.isDigit then some (c.toNat - '0'.toNat)
  else if 'a' ≤ c && c ≤ 'f' then some (c.toNat - 'a'.toNat + 10)
  else if 'A' ≤ c && c ≤ 'F' then some (c.toNat - 'A'.toNat + 10)
  else none

/-- The value of an integer run in a base, if it stays within `[low, high]`; `negative` counts
down from zero instead of up. -/
def runValue (base : Nat) (negative : Bool) (low high : Int) : List Char → Int → Except Fault Int
  | [], acc => .ok acc
  | c :: cs, acc =>
    if c == '_' then runValue base negative low high cs acc
    else
      let scaled := acc * base
      if scaled < low || scaled > high then .error .integerOutOfBounds
      else
        match hexValue? c with
        | none => .error (.invalidEscape "Non-hex digit found")
        | some d =>
          if d ≥ base then .error .expectedInteger
          else
            let next := if negative then scaled - d else scaled + d
            if next < low || next > high then .error .integerOutOfBounds
            else runValue base negative low high cs next

/-- Read an integer in `[low, high]` whose sign, if any, is already read. The result comes with
the cursor where reading stopped, also on failure. -/
def integerAt (negative : Bool) (low high : Int) (c : Cursor) : Except Fault Int × Cursor :=
  let base := match c.rest with
    | '0' :: 'x' :: _ => 16
    | '0' :: 'b' :: _ => 2
    | '0' :: 'o' :: _ => 8
    | _ => 10
  let c := if base != 10 then c.stepN 2 else c
  let run := c.rest.takeWhile isIntChar
  if run.isEmpty then (.error .expectedInteger, c)
  else if run.head? == some '_' then (.error .underscoreAtBeginning, c)
  else (runValue base negative low high run 0, c.stepN run.length)

/-- Read an unsigned integer up to `max`. -/
def unsignedInteger (max : Nat) : Parse Nat := do
  let (r, c) := integerAt false 0 max (← get)
  set c
  match r with
  | .ok n => pure n.toNat
  | .error f => fail f

/-- The run is the text of a float: a sign, digits with at most one point and at least one
digit, and an optional exponent with digits. -/
def isFloatText (cs : List Char) : Bool :=
  let cs := match cs with
    | '+' :: rest => rest
    | '-' :: rest => rest
    | _ => cs
  let whole := cs.takeWhile Char.isDigit
  let cs := cs.drop whole.length
  let (frac, cs) := match cs with
    | '.' :: rest => (rest.takeWhile Char.isDigit, rest.drop (rest.takeWhile Char.isDigit).length)
    | _ => ([], cs)
  if whole.isEmpty && frac.isEmpty then false
  else
    match cs with
    | [] => true
    | e :: rest =>
      if e == 'e' || e == 'E' then
        let rest := match rest with
          | '+' :: r => r
          | '-' :: r => r
          | _ => rest
        !rest.isEmpty && rest.all Char.isDigit
      else false

/-- Read a float: the words `inf` and `NaN` with an optional sign, or a run of float
characters. An underscore in the run fails where it stands; a run that is no float fails after
the run. -/
def float : Parse Unit := do
  for word in ["inf", "+inf", "-inf", "NaN", "+NaN", "-NaN"] do
    if ← consumeIdent word then return
  let c ← get
  let run := c.rest.takeWhile isFloatChar
  match run.findIdx? (· == '_') with
  | some i =>
    advance i
    fail .floatUnderscore
  | none =>
    advance run.length
    if !isFloatText run then fail .expectedFloat

example :
    (float.runFrom { rest := "1.5_0".toList }).1 = .error .floatUnderscore := by rfl

/-- Read any number. The reading as an integer comes first unless the text is longer read as a
float; when the integer fails, the float is read from the same start, but the position keeps
counting from where the integer stopped. -/
def anyNumber : Parse Unit := do
  let start ← get
  let first ← peekOrEof
  let signed := first == '-' || first == '+'
  let body := if signed then start.rest.drop 1 else start.rest
  if (body.takeWhile isFloatChar).length > (body.takeWhile isIntChar).length then float
  else
    let (r, c) :=
      if signed then integerAt (first == '-') (-(Nat.pow 2 63 : Int)) ((Nat.pow 2 63 - 1 : Nat) : Int) start.step
      else integerAt false 0 ((Nat.pow 2 64 - 1 : Nat) : Int) start
    match r with
    | .ok _ => set c
    | .error _ =>
      set { c with rest := start.rest }
      float

/-- Read one escape after its backslash. -/
def escape : Parse Char := do
  match ← eatByte with
  | '\'' => pure '\''
  | '"' => pure '"'
  | '\\' => pure '\\'
  | 'n' => pure '\n'
  | 'r' => pure '\r'
  | 't' => pure '\t'
  | '0' => pure (Char.ofNat 0)
  | 'x' =>
    let a ← eatByte
    let some a := hexValue? a | fail (.invalidEscape "Non-hex digit found")
    let b ← eatByte
    let some b := hexValue? b | fail (.invalidEscape "Non-hex digit found")
    pure (Char.ofNat (a * 16 + b))
  | 'u' =>
    if (← eatByte) != '\x7b' then fail (.invalidEscape "Missing \x7b in Unicode escape")
    let (value, count) ← unicodeDigits 6 0 0
    if count == 0 then
      fail (.invalidEscape "Expected 1-6 digits, got 0 digits in Unicode escape")
    if (← eatByte) != '\x7d' then fail (.invalidEscape "No \x7d at the end of Unicode escape")
    if value > 0x10FFFF || (0xD800 ≤ value && value ≤ 0xDFFF) then
      fail (.invalidEscape "Not a valid char")
    pure (Char.ofNat value)
  | _ => fail (.invalidEscape "Unknown escape character")
where
  /-- Up to `left` more hexadecimal digits, stopping before a closing brace. -/
  unicodeDigits : Nat → Nat → Nat → Parse (Nat × Nat)
    | 0, value, count => pure (value, count)
    | left + 1, value, count => do
      if (← peekOrEof) == '\x7d' then return (value, count)
      let d ← eatByte
      let some d := hexValue? d | fail (.invalidEscape "Non-hex digit found")
      unicodeDigits left (value * 16 + d) (count + 1)

def stopIndex (cs : List Char) : Option Nat := cs.findIdx? (fun ch => ch == '"' || ch == '\\')

/-- Read the rest of a quoted string after its opening quote. Each stretch, the first and the
one after each escape, must end in a quote or a backslash. -/
def quoted : Parse String := do
  let c ← get
  match stopIndex c.rest with
  | none => fail .expectedStringEnd
  | some i => go (c.rest.length + 1) [] i
where
  /-- `i` is the index of the next quote or backslash; `acc` the text so far. -/
  go : Nat → List Char → Nat → Parse String
    | 0, acc, _ => pure (String.ofList acc)
    | fuel + 1, acc, i => do
      let c ← get
      let acc := acc ++ c.rest.take i
      if (c.rest.drop i).head? == some '"' then
        advance (i + 1)
        return String.ofList acc
      advance (i + 1)
      let ch ← escape
      let c ← get
      match stopIndex c.rest with
      | none => fail .expectedStringEnd
      | some j => go fuel (acc ++ [ch]) j

/-- The index where `pattern` first occurs in `cs`. -/
def findSub (pattern cs : List Char) : Option Nat :=
  go cs.length 0 cs
where
  go : Nat → Nat → List Char → Option Nat
    | 0, _, _ => none
    | fuel + 1, i, rest =>
      if pattern.isPrefixOf rest then some i
      else match rest with
        | [] => none
        | _ :: more => go fuel (i + 1) more

/-- Read the rest of a raw string after its `r`. -/
def rawString : Parse String := do
  let c ← get
  let hashes := (c.rest.takeWhile (· == '#')).length
  advance hashes
  if !(← consume "\"") then fail .expectedString
  let c ← get
  match findSub ('"' :: List.replicate hashes '#') c.rest with
  | none => fail .expectedStringEnd
  | some i =>
    advance (i + hashes + 1)
    return String.ofList (c.rest.take i)

/-- Read a string, quoted or raw. -/
def string : Parse String := do
  if ← consume "\"" then quoted
  else if ← consume "r" then rawString
  else fail .expectedString

/-- Read a character literal: an escape, or exactly one character before the closing quote. -/
def charLiteral : Parse Unit := do
  if !(← consume "'") then fail .expectedChar
  if (← peekOrEof) == '\\' then
    advance 1
    let _ ← escape
  else
    let c ← get
    -- one character, and it is not the closing quote itself
    match c.rest with
    | ch :: '\'' :: _ => if ch != '\'' then advance 1 else fail .expectedChar
    | _ => fail .expectedChar
  if !(← consume "'") then fail .expectedChar

/-- Elements up to a closing character, separated by commas, a trailing comma allowed. The
closing character is not taken. -/
def commaSeparated (close : Char) (elem : Parse Unit) : Parse Unit := do
  let c ← get
  go (c.rest.length + 1) true
where
  go : Nat → Bool → Parse Unit
    | 0, _ => pure ()
    | fuel + 1, hadComma => do
      skipWs
      let next ← peekOrEof
      if next == close then return
      if !hadComma then fail .expectedComma
      elem
      let more ← comma
      go fuel more

/-- A colon between a key and its value, with blanks around it. -/
def colon : Parse Unit := do
  skipWs
  if !(← consume ":") then fail .expectedMapColon
  skipWs

/-- Whether a bracket holds a tuple rather than a struct: it does unless an identifier and a
colon come first. The cursor does not move, and a failure while looking is reported at the
bracket. -/
def holdsTuple : Parse Bool := lookAhead do
  let _ ← consume "("
  skipWs
  let isIdent ← (do let _ ← identifier; pure true) <|> pure false
  if !isIdent then return true
  skipWs
  return (← eatByte) != ':'

/-- Take one of the `left` nesting guards and run `inner` with the guards still left; with
none left, nesting has gone too deep. -/
def nest {α : Type} (left : Nat) (inner : (rest : Nat) → rest < left → Parse α) : Parse α :=
  match left with
  | 0 => fail .recursionLimit
  | rest + 1 => inner rest (Nat.lt_succ_self rest)

theorem nest_zero {α : Type} (inner : (rest : Nat) → rest < 0 → Parse α) :
    nest 0 inner = fail .recursionLimit := rfl

theorem nest_succ {α : Type} (n : Nat) (inner : (rest : Nat) → rest < n + 1 → Parse α) :
    nest (n + 1) inner = inner n (Nat.lt_succ_self n) := rfl

/-- Take a closing text, or fail. -/
def close (s : String) (f : Fault) : Parse Unit := do
  let _ ← comma
  if !(← consume s) then fail f

/-- Skip any value with `budget` nesting guards left. -/
def skipAny (budget : Nat) : Parse Unit := do
  if ← consumeIdent "true" then return
  if ← consumeIdent "false" then return
  if ← checkIdent "Some" then
    let _ ← consume "Some"
    skipWs
    if ← consume "(" then
      skipWs
      nest budget fun b _ => skipAny b
      close ")" .expectedOptionEnd
      return
    if (← get).implicitSome then return ← nest budget fun b _ => skipAny b
    fail .expectedOption
  if ← consumeIdent "None" then return
  if ← consume "()" then return
  if ← consumeIdent "inf" then return
  if ← consumeIdent "-inf" then return
  if ← consumeIdent "NaN" then return
  let named ← (do let _ ← identifier; pure true) <|> pure false
  if named then
    skipWs
    return ← bracket
  match ← peekOrEof with
  | '(' => bracket
  | '[' =>
    advance 1
    nest budget fun b _ => commaSeparated ']' (nest b fun c _ => skipAny c)
    close "]" .expectedArrayEnd
  | '\x7b' =>
    advance 1
    nest budget fun b _ =>
      commaSeparated '\x7d' do
        nest b fun c _ => skipAny c
        colon
        nest b fun c _ => skipAny c
    close "\x7d" .expectedMapEnd
  | '.' => float
  | '"' => let _ ← string
  | 'r' => let _ ← string
  | '\'' => charLiteral
  | ch =>
    if ch.isDigit || ch == '+' || ch == '-' then anyNumber
    else fail (.unexpectedByte (firstByte ch))
termination_by 2 * budget + 1
decreasing_by all_goals omega
where
  /-- A tuple or a struct body after a name, or nothing when no bracket follows. A struct's
  field names take a guard but no more. -/
  bracket : Parse Unit := do
    if (← get).rest.head? != some '(' then return
    if ← holdsTuple then
      advance 1
      nest budget fun b _ => commaSeparated ')' (nest b fun c _ => skipAny c)
    else
      advance 1
      nest budget fun b _ =>
        commaSeparated ')' do
          nest b fun _ _ => do let _ ← identifier
          colon
          nest b fun c _ => skipAny c
    close ")" .expectedStructLikeEnd
  termination_by 2 * budget
  decreasing_by all_goals omega

end Novel.Ron
