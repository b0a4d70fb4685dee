import Novel.Story.Metadata
import Novel.Story.Sheet
import Novel.Text.Cell
import Novel.Table.Read

/-!
# The metadata tab

A metadata tab comes in one of two layouts.

* **Key/value:** each row is a label and its value, possibly under a `key` header row.
* **Columnar:** the first row holds labels and the second their values.

The layout is key/value when the first cell is a label (or the word `key`) and either the first
row has exactly two cells, or the first two rows are both pairs padded with blank cells and the
second row starts with a label. Everything else is read as columns.

A tab of two rows and two columns whose first row holds two labels fits both layouts; it is
read as key/value and reported as ambiguous. Values are stripped of markup; a later value for
the same field wins, and empty values are ignored. A reading without a title is refused.
-/

namespace Novel.Story

/-- How a metadata tab is laid out. -/
inductive Layout where
  | keyValue
  | columnar
  deriving DecidableEq, Repr, Inhabited

/-- The layout's name. -/
def Layout.name : Layout → String
  | .keyValue => "KeyValue"
  | .columnar => "Columnar"

namespace MetadataTab

def isKeyCell (cell : String) : Bool :=
  (Field.ofLabel cell).isSome || Text.equalsIgnoringAsciiCase (Text.trim cell.toList) "key".toList

/-- At least two cells, and all cells after the second blank. -/
def isPaddedPair (row : Table.Row) : Bool :=
  row.length ≥ 2 && (row.drop 2).all Text.isBlankString

def isBlankRow (row : Table.Row) : Bool := row.all Text.isBlankString

/-- The layout a tab is read with. -/
def layout (rows : List Table.Row) : Layout :=
  match rows with
  | [] => .columnar
  | first :: rest =>
    if !isKeyCell (first.headD "") then .columnar
    else
      let paddedPairs :=
        isPaddedPair first &&
          match rest with
          | second :: _ => isPaddedPair second && (second.head?.bind Field.ofLabel).isSome
          | [] => false
      if first.length == 2 || paddedPairs then .keyValue else .columnar

/-- Two non-blank rows read as key/value, with two labels in the first row. -/
def isAmbiguous (rows : List Table.Row) : Bool :=
  (rows.filter (fun r => !isBlankRow r)).length == 2 &&
    layout rows == .keyValue &&
    ((rows.headD []).take 2).all (fun c => (Field.ofLabel c).isSome)

/-- Read rows as label/value pairs. -/
def readPairs (rows : List Table.Row) : Metadata :=
  rows.foldl (fun m row =>
    let key := Text.trim (row.headD "").toList
    if key.isEmpty || Text.equalsIgnoringAsciiCase key "key".toList then m
    else
      match Field.ofLabel (String.ofList key) with
      | some f => m.set f (Text.stripTags (row.getD 1 ""))
      | none => m) {}

/-- Read the first row as labels and the second as their values. -/
def readColumns (rows : List Table.Row) : Metadata :=
  match rows with
  | [] => {}
  | headers :: rest =>
    let values := rest.head?
    (headers.zipIdx).foldl (fun m (header, i) =>
      match Field.ofLabel header with
      | some f => m.set f (Text.stripTags ((values.bind (·[i]?)).getD ""))
      | none => m) {}

/-- Read a metadata tab with the layout it is detected to have. -/
def read (rows : List Table.Row) : Except Problem Metadata :=
  let m := match layout rows with
    | .keyValue => readPairs rows
    | .columnar => readColumns rows
  if m.title.isEmpty then .error .missingTitle else .ok m

end MetadataTab

end Novel.Story
