import Novel.Json.Value

/-!
# Printing JSON

Two layouts: compact (no blanks at all) and indented (two spaces per level, a line per member,
`": "` after a key, `[]` and `{}` for empty containers). Strings escape the quote, the
backslash and every control character below U+0020: backspace, tab, line feed, form feed and
carriage return by their short escapes, the others as `\u00XX` with lowercase hex digits.
Everything else, U+007F and non-ASCII included, is written as it is.

A number with `places` decimal places is written with exactly that many digits after the
point, so mantissa 10 with one place is `1.0`.
-/

namespace Novel.Json

/-- The written form of one character inside a string. -/
def escapeChar (c : Char) : List Char :=
  if c == '"' then ['\\', '"']
  else if c == '\\' then ['\\', '\\']
  else if c == '\n' then ['\\', 'n']
  else if c == '\r' then ['\\', 'r']
  else if c == '\t' then ['\\', 't']
  else if c.toNat == 8 then ['\\', 'b']
  else if c.toNat == 12 then ['\\', 'f']
  else if c.toNat < 0x20 then
    ['\\', 'u', '0', '0', Nat.digitChar (c.toNat / 16), Nat.digitChar (c.toNat % 16)]
  else [c]

def quote (s : String) : List Char := '"' :: (s.toList.map escapeChar).flatten ++ ['"']

/-- The digits of a number given by its mantissa and decimal places. -/
def numberChars (m : Int) (places : Nat) : List Char :=
  let digits := Nat.toDigits 10 m.natAbs
  let padded := List.replicate (places + 1 - digits.length) '0' ++ digits
  let body :=
    if places == 0 then padded
    else padded.take (padded.length - places) ++ '.' :: padded.drop (padded.length - places)
  if m < 0 then '-' :: body else body

mutual

/-- Compact text of a value. -/
def compact : Value → List Char
  | .null => "null".toList
  | .bool true => "true".toList
  | .bool false => "false".toList
  | .number m p => numberChars m p
  | .str s => quote s
  | .arr items => '[' :: compactItems items ++ [']']
  | .obj fields => '{' :: compactFields fields ++ ['}']

/-- Compact text of array items, comma separated. -/
def compactItems : List Value → List Char
  | [] => []
  | [v] => compact v
  | v :: rest => compact v ++ ',' :: compactItems rest

/-- Compact text of object members, comma separated. -/
def compactFields : List (String × Value) → List Char
  | [] => []
  | [(k, v)] => quote k ++ ':' :: compact v
  | (k, v) :: rest => quote k ++ ':' :: compact v ++ ',' :: compactFields rest

end

def newline (d : Nat) : List Char := '\n' :: List.replicate (2 * d) ' '

mutual

/-- Indented text of a value at nesting depth `d`. -/
def pretty (d : Nat) : Value → List Char
  | .arr [] => "[]".toList
  | .obj [] => "{}".toList
  | .arr items => '[' :: prettyItems (d + 1) items ++ newline d ++ [']']
  | .obj fields => '{' :: prettyFields (d + 1) fields ++ newline d ++ ['}']
  | .null => "null".toList
  | .bool true => "true".toList
  | .bool false => "false".toList
  | .number m p => numberChars m p
  | .str s => quote s

/-- Indented array items, each on its own line at depth `d`. -/
def prettyItems (d : Nat) : List Value → List Char
  | [] => []
  | [v] => newline d ++ pretty d v
  | v :: rest => newline d ++ pretty d v ++ ',' :: prettyItems d rest

/-- Indented object members, each on its own line at depth `d`. -/
def prettyFields (d : Nat) : List (String × Value) → List Char
  | [] => []
  | [(k, v)] => newline d ++ quote k ++ ':' :: ' ' :: pretty d v
  | (k, v) :: rest => newline d ++ quote k ++ ':' :: ' ' :: pretty d v ++ ',' :: prettyFields d rest

end

namespace Value

def render (v : Value) : String := String.ofList (compact v)

def renderPretty (v : Value) : String := String.ofList (pretty 0 v)

end Value

example : numberChars 10 1 = "1.0".toList := by decide

example : numberChars 0 1 = "0.0".toList := by decide

end Novel.Json
