import Novel.Text.Cell

/-!
# Story nodes

A node is one beat of the story: who speaks and what, where the speaker stands, which
portraits and background are shown, how the screen changes on arrival, up to four choices,
music and sound cues, and the flags it grants and requires.

Cells become node fields through small readers:

* a choice style is `danger` or `subtle` exactly as written, anything else is plain;
* a speaker position is `left`, `center` or `right`, trimmed and in any case;
* a transition is `fade` or `checkpoint`, trimmed and in any case, and a cut otherwise.
  Fades and checkpoints save the game on arrival.
-/

namespace Novel.Story

/-- How a choice button is drawn. -/
inductive Style where
  | plain
  | danger
  | subtle
  deriving DecidableEq, Repr, Inhabited

/-- Where the speaker stands. -/
inductive Position where
  | left
  | center
  | right
  deriving DecidableEq, Repr, Inhabited

/-- How the screen changes when the story arrives at a node. -/
inductive Transition where
  | cut
  | fade
  | checkpoint
  deriving DecidableEq, Repr, Inhabited

namespace Style

/-- The style named by a cell, which must be written exactly. -/
def ofCell (cell : String) : Style :=
  if cell == "danger" then .danger else if cell == "subtle" then .subtle else .plain

/-- The style's name. -/
def name : Style → String
  | .plain => "none"
  | .danger => "danger"
  | .subtle => "subtle"

end Style

namespace Position

/-- The position named by a cell, trimmed and in any case. -/
def ofCell (cell : String) : Option Position :=
  let cs := cell.toList
  if Text.isWord cs "left" then some .left
  else if Text.isWord cs "center" then some .center
  else if Text.isWord cs "right" then some .right
  else none

/-- The position's name. -/
def name : Position → String
  | .left => "left"
  | .center => "center"
  | .right => "right"

end Position

namespace Transition

/-- The transition named by a cell, trimmed and in any case; a cut when it names none. -/
def ofCell (cell : String) : Transition :=
  let cs := cell.toList
  if Text.isWord cs "fade" then .fade
  else if Text.isWord cs "checkpoint" then .checkpoint
  else .cut

/-- Fades and checkpoints save the game on arrival. -/
def autosaves : Transition → Bool
  | .cut => false
  | .fade => true
  | .checkpoint => true

/-- The transition's name. -/
def name : Transition → String
  | .cut => "cut"
  | .fade => "fade"
  | .checkpoint => "checkpoint"

end Transition

/-- A way out of a node. -/
structure Choice where
  text : String
  target : String
  style : Style := .plain
  deriving DecidableEq, Repr, Inhabited

/-- A choice with no label, shown as a plain "continue". -/
def Choice.unlabeled (c : Choice) : Bool := c.text.isEmpty

/-- One beat of the story. -/
structure Node where
  id : String
  speaker : Option String := none
  text : String := ""
  position : Option Position := none
  speakerImage : Option String := none
  leftImage : Option String := none
  centerImage : Option String := none
  rightImage : Option String := none
  background : Option String := none
  transition : Transition := .cut
  choices : List Choice := []
  music : Option String := none
  sound : Option String := none
  grants : Option (List String) := none
  requires : Option (List String) := none
  deriving DecidableEq, Repr, Inhabited

namespace Node

def bare (id : String) : Node := { id := id }

def isEnding (n : Node) : Bool := n.choices.isEmpty

/-- A node whose only choice has no label advances without asking. -/
def isAutoAdvance (n : Node) : Bool :=
  match n.choices with
  | [c] => c.unlabeled
  | _ => false

def granted (n : Node) : List String := n.grants.getD []

def required (n : Node) : List String := n.requires.getD []

/-- The node may be entered by a player holding `flags`. -/
def unlockedBy (n : Node) (flags : List String) : Bool :=
  n.required.all (fun f => flags.contains f)

/-- Replace each backslash followed by `n` with a line break, reading left to right. -/
def breakLines : List Char → List Char
  | '\\' :: 'n' :: rest => '\n' :: breakLines rest
  | c :: rest => c :: breakLines rest
  | [] => []

/-- The text as shown: escaped line breaks made real, then trimmed. -/
def displayText (n : Node) : String :=
  String.ofList (Text.trim (breakLines n.text.toList))

end Node

example : Transition.ofCell " FADE " = .fade := by decide

end Novel.Story
