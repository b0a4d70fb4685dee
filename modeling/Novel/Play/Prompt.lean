import Novel.Story.Graph
import Novel.Story.Book

/-!
# Prompts

What the player is offered at a node. First the choices whose targets are locked are hidden: a
choice stays when its target is not in the story (selecting it will report the dangling
target) or when the player holds every flag the target requires. Each hidden choice is
reported.

The remaining choices become a prompt: an ending when there are none, a "continue" when there
is exactly one and it has no label, and otherwise a list to choose from. Under the
auto-advance policy the first unlabeled choice, if any, becomes the "continue" and the labelled
ones are dropped.
-/

namespace Novel.Play

open Novel.Story

/-- How an unlabeled choice among others is treated. -/
inductive Policy where
  /-- It is offered like the others, with an empty label. -/
  | blankLabel
  /-- It becomes the "continue" and the others are dropped. -/
  | autoAdvance
  deriving DecidableEq, Repr, Inhabited

/-- The policy's name. -/
def Policy.name : Policy → String
  | .blankLabel => "BlankLabel"
  | .autoAdvance => "AutoAdvance"

/-- The choices a player holding `flags` may see, and the events for the hidden ones. -/
def visibleChoices (graph : Graph) (flags : List String) : List Choice → List Choice × List Event
  | [] => ([], [])
  | c :: rest =>
    let (kept, events) := visibleChoices graph flags rest
    match graph.get? c.target with
    | some t =>
      if t.unlockedBy flags then (c :: kept, events)
      else (kept, Event.choiceHidden c.text c.target t.required :: events)
    | none => (c :: kept, events)

/-- What the player is offered. -/
inductive Prompt where
  | ending
  | proceed (choice : Choice)
  | choose (choices : List Choice)
  deriving DecidableEq, Repr, Inhabited

namespace Prompt

/-- The prompt for a list of visible choices. -/
def classify (choices : List Choice) (policy : Policy) : Prompt :=
  match choices with
  | [] => .ending
  | [c] => if c.unlabeled then .proceed c else .choose [c]
  | cs =>
    match policy with
    | .blankLabel => .choose cs
    | .autoAdvance =>
      match cs.find? Choice.unlabeled with
      | some c => .proceed c
      | none => .choose cs

/-- The prompt ends the story. -/
def isEnding : Prompt → Bool
  | .ending => true
  | _ => false

/-- The choice at a position. -/
def get? (p : Prompt) (i : Nat) : Option Choice :=
  match p with
  | .ending => none
  | .proceed c => if i == 0 then some c else none
  | .choose cs => cs[i]?

/-- Number of choices offered. -/
def size : Prompt → Nat
  | .ending => 0
  | .proceed _ => 1
  | .choose cs => cs.length

end Prompt

end Novel.Play
