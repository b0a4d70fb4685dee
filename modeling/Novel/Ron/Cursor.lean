/-!
# Reading RON: the cursor

RON is the notation of the player's configuration file. This module holds what every RON
reader needs: where reading stands, why it fails, and the small steps: blanks and comments,
literal text, identifiers and commas.

Positions are kept as reading goes. Lines count from 1, and so do columns; the column counts
bytes, so a character of two bytes moves it by two. A failure is reported where reading stands
when the failure reaches the top: a reader that catches a failure and goes on moves that place,
since the cursor keeps what was read before the failure.

Blanks are the space, tab, line feed and carriage return. A comment runs from `//` to the end
of the line, or from `/*` to the matching `*/`; block comments nest.

An identifier starts with an ASCII letter or `_` and goes on with ASCII letters, digits and
`_`. A raw identifier is written `r#` followed by those characters, `.`, `+` or `-`.
-/

namespace Novel.Ron

/-- Why a RON text cannot be read. -/
inductive Fault where
  /-- The text ended where more was needed. -/
  | eof
  /-- A `/` that starts no comment, or a byte that starts no value. -/
  | unexpectedByte (b : Nat)
  /-- A block comment is not closed. -/
  | unclosedBlockComment
  /-- An identifier was needed. -/
  | expectedIdentifier
  /-- The identifier needs the raw form. -/
  | suggestRawIdentifier (ident : String)
  /-- An attribute line is malformed. -/
  | expectedAttribute
  /-- An attribute line is not closed. -/
  | expectedAttributeEnd
  /-- An attribute names no known extension. -/
  | noSuchExtension (name : String)
  /-- Two elements are not separated by a comma. -/
  | expectedComma
  /-- A field name is not followed by a colon. -/
  | expectedMapColon
  /-- A struct's opening bracket is missing. -/
  | expectedNamedStructLike (name : String)
  /-- An unnamed struct's opening bracket is missing. -/
  | expectedStructLike
  /-- A struct's closing bracket is missing. -/
  | expectedStructLikeEnd
  /-- The struct has another name. -/
  | expectedDifferentStructName (expected found : String)
  /-- An array's closing bracket is missing. -/
  | expectedArrayEnd
  /-- A map's closing brace is missing. -/
  | expectedMapEnd
  /-- An integer was needed. -/
  | expectedInteger
  /-- An integer starts with an underscore. -/
  | underscoreAtBeginning
  /-- An integer does not fit. -/
  | integerOutOfBounds
  /-- A float was needed. -/
  | expectedFloat
  /-- A float holds an underscore. -/
  | floatUnderscore
  /-- A string was needed. -/
  | expectedString
  /-- A string is not closed. -/
  | expectedStringEnd
  /-- A character literal is malformed. -/
  | expectedChar
  /-- An escape is malformed; the text says how. -/
  | invalidEscape (why : String)
  /-- `Some(…)` or `None` was needed. -/
  | expectedOption
  /-- `Some(…)` is not closed. -/
  | expectedOptionEnd
  /-- A field is given twice. -/
  | duplicateField (field outer : String)
  /-- An enum has no such variant. -/
  | noSuchVariant (expected : List String) (found outer : String)
  /-- Values nest too deeply. -/
  | recursionLimit
  /-- Something follows the value. -/
  | trailingCharacters
  deriving DecidableEq, Repr, Inhabited

/-- An identifier as shown in messages: between backticks, in raw form when it needs it. -/
def showIdent (s : String) : String :=
  let isOther (c : Char) : Bool := (c.isAlphanum && c.toNat < 128) || c == '_'
  let isRaw (c : Char) : Bool := isOther c || c == '.' || c == '+' || c == '-'
  let isFirst (c : Char) : Bool := (c.isAlpha && c.toNat < 128) || c == '_'
  match s.toList with
  | [] => "\"\"_[invalid identifier]"
  | c :: cs =>
    if !(c :: cs).all isRaw then "\"" ++ s ++ "\"_[invalid identifier]"
    else if isFirst c && cs.all isOther then "`" ++ s ++ "`"
    else "`r#" ++ s ++ "`"

/-- The alternatives of an enum, as listed in messages. -/
def oneOf : List String → String
  | [] => "there are no variants"
  | [a] => "expected " ++ showIdent a ++ " instead"
  | [a, b] => "expected either " ++ showIdent a ++ " or " ++ showIdent b ++ " instead"
  | a :: rest =>
    let middle := (rest.dropLast.map (fun x => ", " ++ showIdent x)).foldl (· ++ ·) ""
    "expected one of " ++ showIdent a ++ middle ++ ", or " ++
      showIdent (rest.getLast?.getD "") ++ " instead"

/-- The first byte of a character's UTF-8 form. -/
def firstByte (c : Char) : Nat :=
  let n := c.toNat
  if n < 0x80 then n
  else if n < 0x800 then 0xC0 + n / 0x40
  else if n < 0x10000 then 0xE0 + n / 0x1000
  else 0xF0 + n / 0x40000

/-- A byte shown as the character of that code point, between single quotes, with the short
escapes for NUL, tab, line feed, carriage return, backslash and the single quote, and `\u{h}`
for the other control characters. -/
def showByte (b : Nat) : String :=
  let body : String :=
    if b == 0 then "\\0" else if b == 9 then "\\t" else if b == 10 then "\\n"
    else if b == 13 then "\\r" else if b == 92 then "\\\\" else if b == 39 then "\\'"
    else if b < 0x20 || (0x7F ≤ b && b ≤ 0xA0) || b == 0xAD then
      "\\u\x7b" ++ String.ofList (Nat.toDigits 16 b) ++ "\x7d"
    else String.ofList [Char.ofNat b]
  "'" ++ body ++ "'"

/-- The message of a fault. -/
def Fault.message : Fault → String
  | .eof => "Unexpected end of RON"
  | .unexpectedByte b => "Unexpected byte " ++ showByte b
  | .unclosedBlockComment => "Unclosed block comment"
  | .expectedIdentifier => "Expected identifier"
  | .suggestRawIdentifier i =>
    "Found invalid std identifier `" ++ i ++ "`, try the raw identifier `r#" ++ i ++ "` instead"
  | .expectedAttribute => "Expected an `#![enable(...)]` attribute"
  | .expectedAttributeEnd => "Expected closing `)]` after the enable attribute"
  | .noSuchExtension n => "No RON extension named " ++ showIdent n
  | .expectedComma => "Expected comma"
  | .expectedMapColon => "Expected colon"
  | .expectedNamedStructLike n => "Expected opening `(` for struct " ++ showIdent n
  | .expectedStructLike => "Expected opening `(`"
  | .expectedStructLikeEnd => "Expected closing `)`"
  | .expectedDifferentStructName e f =>
    "Expected struct " ++ showIdent e ++ " but found " ++ showIdent f
  | .expectedArrayEnd => "Expected closing `]`"
  | .expectedMapEnd => "Expected closing `\x7d`"
  | .expectedInteger => "Expected integer"
  | .underscoreAtBeginning => "Unexpected leading underscore in an integer"
  | .integerOutOfBounds => "Integer is out of bounds"
  | .expectedFloat => "Expected float"
  | .floatUnderscore => "Unexpected underscore in float"
  | .expectedString => "Expected string"
  | .expectedStringEnd => "Expected end of string"
  | .expectedChar => "Expected char"
  | .invalidEscape why => why
  | .expectedOption => "Expected option"
  | .expectedOptionEnd => "Expected closing `)`"
  | .duplicateField f o => "Unexpected duplicate field " ++ showIdent f ++ " in " ++ showIdent o
  | .noSuchVariant e f o =>
    "Unexpected variant named " ++ showIdent f ++ "in enum " ++ showIdent o ++ ", " ++ oneOf e
  | .recursionLimit =>
    "Exceeded recursion limit, try increasing the limit and using `serde_stacker` " ++
      "to protect against a stack overflow"
  | .trailingCharacters => "Non-whitespace trailing characters"

/-- A failure and where reading stood when it reached the top. -/
structure Error where
  fault : Fault
  line : Nat
  col : Nat
  deriving DecidableEq, Repr, Inhabited

def Error.message (e : Error) : String :=
  toString e.line ++ ":" ++ toString e.col ++ ": " ++ e.fault.message

/-- Where reading stands, and the extensions the text enabled. -/
structure Cursor where
  rest : List Char
  line : Nat := 1
  col : Nat := 1
  implicitSome : Bool := false
  deriving Inhabited

/-- A reader of RON text. A failure leaves the cursor where it was found, so a reader that
catches it goes on from there. -/
abbrev Parse (α : Type) := ExceptT Fault (StateM Cursor) α

def fail {α : Type} (f : Fault) : Parse α := throw f

/-- Run a reader and return how it ended, failure included, without failing. -/
def attempt {α : Type} (p : Parse α) : Parse (Except Fault α) :=
  tryCatch (Except.ok <$> p) (fun f => pure (.error f))

/-- Run a reader from a cursor: how it ended, and the cursor where it stopped. -/
def Parse.runFrom {α : Type} (p : Parse α) (c : Cursor) : Except Fault α × Cursor :=
  Id.run ((ExceptT.run p).run c)

/-- Run a reader on a copy of the cursor: the cursor does not move, also when it fails. -/
def lookAhead {α : Type} (p : Parse α) : Parse α := do
  match p.runFrom (← get) with
  | (.ok a, _) => pure a
  | (.error f, _) => fail f

/-- The cursor after one character. -/
def Cursor.step (c : Cursor) : Cursor :=
  match c.rest with
  | [] => c
  | ch :: rest =>
    if ch == '\n' then { c with rest := rest, line := c.line + 1, col := 1 }
    else { c with rest := rest, col := c.col + ch.utf8Size }

/-- The cursor after `n` characters. -/
def Cursor.stepN (c : Cursor) : Nat → Cursor
  | 0 => c
  | n + 1 => c.step.stepN n

def peek? : Parse (Option Char) := do
  return (← get).rest.head?

/-- The next character; the text must not end here. -/
def peekOrEof : Parse Char := do
  match (← get).rest with
  | ch :: _ => pure ch
  | [] => fail .eof

def advance (n : Nat) : Parse Unit := modify (·.stepN n)

/-- Take one byte. A character of several bytes is taken whole but moves the column by one:
what follows a byte taken from the middle of a character is always a failure. -/
def eatByte : Parse Char := do
  let c ← get
  match c.rest with
  | ch :: rest =>
    if ch == '\n' then set { c with rest := rest, line := c.line + 1, col := 1 }
    else set { c with rest := rest, col := c.col + 1 }
    pure ch
  | [] => fail .eof

def startsWith (s : String) : Parse Bool := do
  return s.toList.isPrefixOf (← get).rest

/-- Take `s` if the text starts with it. -/
def consume (s : String) : Parse Bool := do
  if ← startsWith s then
    advance s.length
    return true
  return false

def isIdentOther (c : Char) : Bool := (c.isAlphanum && c.toNat < 128) || c == '_'

def isIdentFirst (c : Char) : Bool := (c.isAlpha && c.toNat < 128) || c == '_'

def isIdentRaw (c : Char) : Bool := isIdentOther c || c == '.' || c == '+' || c == '-'

def isBlank (c : Char) : Bool := c == ' ' || c == '\t' || c == '\n' || c == '\r'

/-- The text starts with the identifier `s`, not followed by another identifier character. -/
def checkIdent (s : String) : Parse Bool := do
  let c ← get
  return s.toList.isPrefixOf c.rest && !((c.rest.drop s.length).head?.map isIdentOther |>.getD false)

/-- Take the identifier `s` if it stands here. -/
def consumeIdent (s : String) : Parse Bool := do
  if ← checkIdent s then
    advance s.length
    return true
  return false

/-- Skip the body of a block comment after its `/*`, with `level` comments open. Each round
takes at least one character, so the length of the text bounds the rounds. -/
def skipBlock (fuel : Nat) (level : Nat) : Parse Unit :=
  match fuel with
  | 0 => fail .unclosedBlockComment
  | fuel + 1 => do
    let c ← get
    let run := c.rest.takeWhile (fun ch => ch != '/' && ch != '*')
    if c.rest.isEmpty then fail .unclosedBlockComment
    else
      advance run.length
      if ← consume "/*" then skipBlock fuel (level + 1)
      else if ← consume "*/" then
        if level ≤ 1 then pure () else skipBlock fuel (level - 1)
      else
        let c ← get
        match c.rest with
        | [] => fail .unclosedBlockComment
        | _ => do let _ ← eatByte; skipBlock fuel level

/-- Skip one comment, if one starts here; tell whether one did. -/
def skipComment : Parse Bool := do
  if ← consume "/" then
    match ← eatByte with
    | '/' =>
      let c ← get
      advance (c.rest.takeWhile (· != '\n')).length
    | '*' =>
      let c ← get
      skipBlock (c.rest.length + 1) 1
    | b => fail (.unexpectedByte (firstByte b))
    return true
  return false

/-- Skip blanks and comments. -/
def skipWs : Parse Unit := do
  let c ← get
  go (c.rest.length + 1)
where
  go : Nat → Parse Unit
    | 0 => pure ()
    | fuel + 1 => do
      let c ← get
      advance (c.rest.takeWhile isBlank).length
      if ← skipComment then go fuel else pure ()

/-- Skip blanks, then take a comma if there is one, and blanks after it. -/
def comma : Parse Bool := do
  skipWs
  if ← consume "," then
    skipWs
    return true
  return false

/-- Read an identifier. The cursor does not move when it fails. -/
def identifier : Parse String := do
  let next ← peekOrEof
  let c ← get
  if !isIdentFirst next then
    if isIdentRaw next then
      fail (.suggestRawIdentifier (String.ofList (c.rest.takeWhile isIdentRaw)))
    fail .expectedIdentifier
  if next == 'r' then
    match c.rest with
    | _ :: '"' :: _ => fail .expectedIdentifier
    | _ :: '#' :: rest =>
      match rest with
      | a :: _ =>
        if !isIdentRaw a then fail .expectedIdentifier
        advance 2
        let run := rest.takeWhile isIdentRaw
        advance run.length
        return String.ofList run
      | [] => fail .expectedIdentifier
    | [_] => fail .eof
    | _ => plain c
  else plain c
where
  plain (c : Cursor) : Parse String := do
    let std := c.rest.takeWhile isIdentOther
    let raw := c.rest.takeWhile isIdentRaw
    if raw.length > std.length then
      fail (.suggestRawIdentifier (String.ofList raw))
    advance std.length
    return String.ofList std

end Novel.Ron
