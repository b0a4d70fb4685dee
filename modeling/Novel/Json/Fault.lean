import Novel.Text.Unprintable

/-!
# Why a JSON text cannot be read, and where

A reading failure has a cause (`Fault`) and, once placed, a spot in the input. A spot is given
by the rest of the input at the failure together with a number of bytes into that rest: some
failures are found while looking at the next byte, and point just past it.

The spot is turned into a line and a column only when the message is written. Lines count
from 1; the column is the number of bytes since the last line feed, so that a failure at the
very start of a line is at column 0.

Faults of the value's shape (a wrong type, a wrong length, a missing or repeated field) are
found by the code that builds the value and are placed by the reader at its spot when they
come back to it.
-/

namespace Novel.Json

/-- What was found where a value of another kind was expected. -/
inductive Found where
  /-- `null`. -/
  | null
  /-- `true` or `false`. -/
  | bool (b : Bool)
  /-- A whole number, with its sign. -/
  | integer (n : Int)
  /-- A number with a fraction or an exponent, already shown as text. -/
  | float (text : String)
  /-- A string. -/
  | str (s : String)
  /-- An array. -/
  | seq
  /-- An object. -/
  | map
  deriving DecidableEq, Repr, Inhabited

/-- How a found value is named in a message. -/
def Found.describe : Found → String
  | .null => "null"
  | .bool true => "boolean `true`"
  | .bool false => "boolean `false`"
  | .integer n => "integer `" ++ toString n ++ "`"
  | .float t => "floating point `" ++ t ++ "`"
  | .str s => "string " ++ Text.shown s
  | .seq => "sequence"
  | .map => "map"

/-- The cause of a reading failure. -/
inductive Fault where
  /-- The input ended inside a value. -/
  | eofValue
  /-- The input ended inside an object. -/
  | eofObject
  /-- The input ended inside an array. -/
  | eofList
  /-- The input ended inside a string. -/
  | eofString
  /-- An object key was not followed by a colon. -/
  | expectedColon
  /-- An array element was followed by something other than a comma or `]`. -/
  | expectedListCommaOrEnd
  /-- An object member was followed by something other than a comma or `}`. -/
  | expectedObjectCommaOrEnd
  /-- `null`, `true` or `false` was misspelt. -/
  | expectedIdent
  /-- No value starts here. -/
  | expectedValue
  /-- A backslash in a string starts no escape. -/
  | invalidEscape
  /-- A number is malformed. -/
  | invalidNumber
  /-- A number is too large. -/
  | numberOutOfRange
  /-- A surrogate pair makes no character. -/
  | invalidCodePoint
  /-- A string holds a raw control character. -/
  | controlCharacter
  /-- An object key is not a string. -/
  | keyMustBeString
  /-- A low surrogate escape stands where a character must start. -/
  | loneLeadingSurrogate
  /-- A high surrogate escape is not followed by a second escape. -/
  | unexpectedEndOfHexEscape
  /-- A comma is followed by the end of its array or object. -/
  | trailingComma
  /-- Something follows the value. -/
  | trailingCharacters
  /-- A value of the wrong kind. -/
  | invalidType (found : Found) (expected : String)
  /-- An array with too few elements. -/
  | invalidLength (n : Nat) (expected : String)
  /-- A required field is absent. -/
  | missingField (name : String)
  /-- A field is given twice. -/
  | duplicateField (name : String)
  /-- A failure with its own message, from the code that builds the value. -/
  | custom (message : String)
  deriving DecidableEq, Repr, Inhabited

/-- The message of a fault. -/
def Fault.message : Fault → String
  | .eofValue => "EOF while parsing a value"
  | .eofObject => "EOF while parsing an object"
  | .eofList => "EOF while parsing a list"
  | .eofString => "EOF while parsing a string"
  | .expectedColon => "expected `:`"
  | .expectedListCommaOrEnd => "expected `,` or `]`"
  | .expectedObjectCommaOrEnd => "expected `,` or `\x7d`"
  | .expectedIdent => "expected ident"
  | .expectedValue => "expected value"
  | .invalidEscape => "invalid escape"
  | .invalidNumber => "invalid number"
  | .numberOutOfRange => "number out of range"
  | .invalidCodePoint => "invalid unicode code point"
  | .controlCharacter => "control character (\\u0000-\\u001F) found while parsing a string"
  | .keyMustBeString => "key must be a string"
  | .loneLeadingSurrogate => "lone leading surrogate in hex escape"
  | .unexpectedEndOfHexEscape => "unexpected end of hex escape"
  | .trailingComma => "trailing comma"
  | .trailingCharacters => "trailing characters"
  | .invalidType f e => "invalid type: " ++ f.describe ++ ", expected " ++ e
  | .invalidLength n e => "invalid length " ++ toString n ++ ", expected " ++ e
  | .missingField n => "missing field `" ++ n ++ "`"
  | .duplicateField n => "duplicate field `" ++ n ++ "`"
  | .custom m => m

/-- A spot in the input: the rest of the input there, and a number of bytes into that rest. -/
structure Spot where
  rest : List Char
  ahead : Nat := 0
  deriving DecidableEq, Repr, Inhabited

/-- A reading failure: its cause, and its spot once placed. -/
structure ReadError where
  fault : Fault
  spot : Option Spot := none
  deriving DecidableEq, Repr, Inhabited

def ReadError.here (fault : Fault) (rest : List Char) : ReadError := ⟨fault, some ⟨rest, 0⟩⟩

/-- A failure one byte into `rest`: found while looking at the next byte. -/
def ReadError.next (fault : Fault) (rest : List Char) : ReadError := ⟨fault, some ⟨rest, 1⟩⟩

/-- Give a failure a spot, unless it has one. -/
def ReadError.place (e : ReadError) (rest : List Char) : ReadError :=
  match e.spot with
  | some _ => e
  | none => ⟨e.fault, some ⟨rest, 0⟩⟩

/-- The line and column after `budget` more bytes of `cs`, from line `line` and column `col`.
A character cut by the budget counts with the bytes the budget reaches. -/
def locate (budget line col : Nat) : List Char → Nat × Nat
  | [] => (line, col)
  | c :: cs =>
    if budget = 0 then (line, col)
    else if c = '\n' then locate (budget - 1) (line + 1) 0 cs
    else if budget < c.utf8Size then (line, col + budget)
    else locate (budget - c.utf8Size) line (col + c.utf8Size) cs

def byteCount (cs : List Char) : Nat := cs.foldl (fun n c => n + c.utf8Size) 0

def Spot.position (input : List Char) (s : Spot) : Nat × Nat :=
  locate (byteCount input - byteCount s.rest + s.ahead) 1 0 input

/-- The message of a failure to read `input`, with its line and column when placed. -/
def ReadError.message (input : List Char) (e : ReadError) : String :=
  match e.spot with
  | none => e.fault.message
  | some s =>
    let (line, col) := s.position input
    e.fault.message ++ " at line " ++ toString line ++ " column " ++ toString col

example :
    (ReadError.next .eofValue []).message [] = "EOF while parsing a value at line 1 column 0" := by
  decide

end Novel.Json
