import Novel.Table.Read

/-!
# Writing comma-separated tables

Cells are joined by commas and every row ends with a line feed. A cell is quoted, with each
quote inside it doubled, exactly when reading it back unquoted would change it: it holds a
comma, a quote, a line feed or a carriage return, or it has blank characters at an end. A row
made of one empty cell is quoted too, since an empty line would otherwise read as that row
only by accident of the line-break rules.
-/

namespace Novel.Table

/-- A cell must be quoted when it holds a comma, a quote or a line break, or is not trimmed. -/
def needsQuotes (cs : List Char) : Bool :=
  cs.any (fun c => c == ',' || c == '"' || c == '\n' || c == '\r') || Text.trim cs != cs

/-- Double every quote. -/
def doubleQuotes : List Char → List Char
  | [] => []
  | c :: rest => if c == '"' then '"' :: '"' :: doubleQuotes rest else c :: doubleQuotes rest

/-- The written form of one cell; `lone` says that it is the only cell of its row. -/
def writeCell (lone : Bool) (cs : List Char) : List Char :=
  if (lone && cs.isEmpty) || needsQuotes cs then '"' :: doubleQuotes cs ++ ['"'] else cs

/-- The cells of a row, separated by commas. -/
def writeCells (lone : Bool) : List (List Char) → List Char
  | [] => []
  | [c] => writeCell lone c
  | c :: rest => writeCell lone c ++ ',' :: writeCells lone rest

def writeRow (row : Row) : List Char :=
  writeCells (row.length == 1) (row.map String.toList) ++ ['\n']

def writeChars (rows : List Row) : List Char := (rows.map writeRow).flatten

def write (rows : List Row) : String := String.ofList (writeChars rows)

example : write [] = "" := rfl

end Novel.Table
