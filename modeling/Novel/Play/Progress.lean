import Novel.Story.Node

/-!
# Progress through a story

Progress is where the player is, the flags they hold and the nodes they came through. Flags
form a set, kept as a list in increasing order without repeats, which is also the order in
which they are shown and saved.

Progress changes by three commands: moving to a target (the old node joins the history and
the target's flags are added), starting over at a node, and restoring a saved progress as it is.
-/

namespace Novel.Play

open Novel.Story

/-- Insert a flag into an increasing list without repeats. -/
def insertFlag (f : String) : List String → List String
  | [] => [f]
  | g :: rest =>
    if f < g then f :: g :: rest
    else if f == g then g :: rest
    else g :: insertFlag f rest

/-- The set of a list of flags, as an increasing list without repeats. -/
def flagSet (fs : List String) : List String := fs.foldl (fun acc f => insertFlag f acc) []

/-- Where the player is, what they hold and where they have been. -/
structure Progress where
  current : String := ""
  flags : List String := []
  history : List String := []
  deriving DecidableEq, Repr, Inhabited

namespace Progress

def start (id : String) : Progress := { current := id }

/-- Progress given by its parts; the flags are made a set. -/
def ofParts (current : String) (flags history : List String) : Progress :=
  { current := current, flags := flagSet flags, history := history }

def hasFlag (p : Progress) (f : String) : Bool := p.flags.contains f

/-- Move to a target node. -/
def moveTo (p : Progress) (targetId : String) (target : Node) : Progress :=
  { current := targetId,
    flags := target.granted.foldl (fun acc f => insertFlag f acc) p.flags,
    history := p.history ++ [p.current] }

end Progress

/-- A change of progress. -/
inductive Command where
  | move (targetId : String) (target : Node)
  | reset (start : String)
  | restore (saved : Progress)
  deriving Inhabited

/-- The progress after a command. -/
def Command.apply (p : Progress) : Command → Progress
  | .move id target => p.moveTo id target
  | .reset start => Progress.start start
  | .restore saved => saved

end Novel.Play
