import Novel.Story.Node
import Novel.Table.Read

/-!
# The story tab

The story tab has a header row and then one row per node, in 26 fixed columns:

| columns | field |
|---|---|
| 0, 1, 2 | node id, speaker, text |
| 3, 4 | speaker position, speaker image |
| 5, 6, 7, 8 | left, center and right portraits, background |
| 9 | transition |
| 10 to 21 | four choices of text, target and style |
| 22, 23 | music, sound effect |
| 24, 25 | flags granted, flags required |

A missing cell at the end of a row reads as empty, and an empty optional cell is absent (cells
are not trimmed here). A row becomes a node when it has an id and either text or a first choice
target; other rows are skipped. A choice group is kept when its target is set.

Flag cells are comma-separated lists: each item is trimmed and empty items are dropped, so a
cell of blanks gives an empty list, while an empty cell gives no list at all.
-/

/-!
## Why a story cannot be loaded

Loading is all or nothing: any of these stops the whole load and no partial story is kept.
-/

namespace Novel.Story

/-- A spreadsheet could not be turned into a playable story. -/
inductive Problem where
  /-- The story tab lacks a header row or any row below it. -/
  | missingRows
  /-- No row of the story tab is playable. -/
  | emptyStory
  /-- The metadata tab gives no title. -/
  | missingTitle
  /-- The start node named by the metadata is not in the story. -/
  | unknownStart (id : String)
  deriving DecidableEq, Repr, Inhabited

/-- What the problem says to a reader. -/
def Problem.message : Problem → String
  | .missingRows => "story sheet must have a header row and at least one data row"
  | .emptyStory => "story sheet has no playable rows"
  | .missingTitle => "metadata sheet must include a \"title\" key"
  | .unknownStart id => "start node '" ++ id ++ "' does not exist in the story sheet"

/-! Column layout of the story tab. -/

namespace Column
def id : Nat := 0
def speaker : Nat := 1
def text : Nat := 2
def position : Nat := 3
def speakerImage : Nat := 4
def leftImage : Nat := 5
def centerImage : Nat := 6
def rightImage : Nat := 7
def background : Nat := 8
def transition : Nat := 9
def firstChoice : Nat := 10
def music : Nat := 22
def sound : Nat := 23
def grants : Nat := 24
def requires : Nat := 25
end Column

/-- The cell at a column, empty when the row is shorter. -/
def cellAt (row : Table.Row) (i : Nat) : String := row.getD i ""

/-- The cell at a column, absent when empty. -/
def optionalAt (row : Table.Row) (i : Nat) : Option String :=
  let v := cellAt row i
  if v.isEmpty then none else some v

/-- Read a flag list: absent when the cell is empty, else the trimmed non-empty items. -/
def parseFlags (cell : String) : Option (List String) :=
  if cell.isEmpty then none
  else
    some (((cell.toList.splitOn ',').map Text.trim).filter (fun t => !t.isEmpty)
      |>.map String.ofList)

/-- The choice group starting at column `i`, when its target is set. -/
def choiceAt (row : Table.Row) (i : Nat) : Option Choice :=
  let target := cellAt row (i + 1)
  if target.isEmpty then none
  else some { text := cellAt row i, target := target, style := Style.ofCell (cellAt row (i + 2)) }

/-- The node a data row describes, if it is playable. -/
def nodeOfRow (row : Table.Row) : Option Node :=
  let id := cellAt row Column.id
  let text := cellAt row Column.text
  if id.isEmpty then none
  else if text.isEmpty && (cellAt row (Column.firstChoice + 1)).isEmpty then none
  else some {
    id := id
    speaker := optionalAt row Column.speaker
    text := text
    position := Position.ofCell (cellAt row Column.position)
    speakerImage := optionalAt row Column.speakerImage
    leftImage := optionalAt row Column.leftImage
    centerImage := optionalAt row Column.centerImage
    rightImage := optionalAt row Column.rightImage
    background := optionalAt row Column.background
    transition := Transition.ofCell (cellAt row Column.transition)
    choices := [0, 1, 2, 3].filterMap (fun g => choiceAt row (Column.firstChoice + 3 * g))
    music := optionalAt row Column.music
    sound := optionalAt row Column.sound
    grants := parseFlags (cellAt row Column.grants)
    requires := parseFlags (cellAt row Column.requires) }

/-- The nodes of a story tab, in row order. -/
def nodesOfRows (rows : List Table.Row) : Except Problem (List Node) :=
  match rows with
  | _ :: data@(_ :: _) => .ok (data.filterMap nodeOfRow)
  | _ => .error .missingRows

example : nodesOfRows [] = .error .missingRows := rfl

end Novel.Story
