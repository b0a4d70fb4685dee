import Novel.Text.Cell

/-!
# Reading comma-separated tables

A spreadsheet tab exported as text is a list of rows of cells. The reader makes one pass over
the characters and is always either inside or outside quotes.

* Outside quotes a comma ends the cell, and a line feed, a carriage return or the pair CR LF
  ends the row. A quote enters quoted text; if the cell so far is blank, that blank text is
  padding and is dropped.
* Inside quotes a doubled quote stands for one quote and a single quote leaves quoted text.
  Every other character, commas and line breaks included, belongs to the cell.
* A cell without quotes is trimmed at both ends. A cell with quotes keeps the span from its
  first opening quote to its last closing quote verbatim; only the text before that span is
  trimmed at its start and the text after it at its end.
* At the end of the input an open quote counts as closed there, and the last row is kept if
  anything was read for it. Empty input has no rows.

The cell being read is a `Draft`: its characters (latest first), where the first quoted span
started and where the last one ended.
-/

namespace Novel.Table

/-- One row of a table. -/
abbrev Row := List String

/-- A cell being read. `rev` holds the characters so far, the latest first; `opened` is the
number of characters before the first opening quote; `closed` the number before the last
closing quote. -/
structure Draft where
  rev : List Char := []
  opened : Option Nat := none
  closed : Nat := 0
  deriving Inhabited

namespace Draft

def push (d : Draft) (c : Char) : Draft := { d with rev := c :: d.rev }

/-- Enter quoted text. Only the first opening quote of a cell marks where its quoted span
starts; blank text before it is padding. -/
def enter (d : Draft) : Draft :=
  match d.opened with
  | some _ => d
  | none =>
    let rev := if Text.allBlank d.rev then [] else d.rev
    { d with rev := rev, opened := some rev.length }

/-- Leave quoted text: the quoted span now reaches the end of what was read. -/
def leave (d : Draft) : Draft := { d with closed := d.rev.length }

/-- Something was read for this cell: a character or a quote. -/
def touched (d : Draft) : Bool := !d.rev.isEmpty || d.opened.isSome

/-- The characters of a finished cell. -/
def chars (d : Draft) : List Char :=
  let cs := d.rev.reverse
  match d.opened with
  | none => Text.trim cs
  | some k =>
    let j := max d.closed k
    Text.trimStart (cs.take k) ++ (cs.take j).drop k ++ Text.trimEnd (cs.drop j)

def finish (d : Draft) : String := String.ofList d.chars

end Draft

/-- The reader's loop. `quoted` tells whether we are inside quotes; `row` holds the finished
cells of the current row and `rows` the finished rows, both latest first. -/
def readLoop : Bool → List Char → Draft → List String → List Row → List Row
  | true, '"' :: '"' :: rest, d, row, rows => readLoop true rest (d.push '"') row rows
  | true, '"' :: rest, d, row, rows => readLoop false rest d.leave row rows
  | true, c :: rest, d, row, rows => readLoop true rest (d.push c) row rows
  | false, '"' :: rest, d, row, rows => readLoop true rest d.enter row rows
  | false, ',' :: rest, d, row, rows => readLoop false rest {} (d.finish :: row) rows
  | false, '\r' :: '\n' :: rest, d, row, rows =>
    readLoop false rest {} [] ((d.finish :: row).reverse :: rows)
  | false, '\r' :: rest, d, row, rows =>
    readLoop false rest {} [] ((d.finish :: row).reverse :: rows)
  | false, '\n' :: rest, d, row, rows =>
    readLoop false rest {} [] ((d.finish :: row).reverse :: rows)
  | false, c :: rest, d, row, rows => readLoop false rest (d.push c) row rows
  | quoted, [], d, row, rows =>
    let d := if quoted then d.leave else d
    if d.touched || !row.isEmpty then ((d.finish :: row).reverse :: rows).reverse
    else rows.reverse

def readChars (cs : List Char) : List Row := readLoop false cs {} [] []

def read (s : String) : List Row := readChars s.toList

example : read "" = [] := rfl

end Novel.Table
