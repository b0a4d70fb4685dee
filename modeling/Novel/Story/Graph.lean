import Novel.Story.Node

/-!
# Story graphs

A graph holds one node per id, in the order in which the ids first appear in the sheet. When a
sheet repeats an id, the later row wins: its content replaces the earlier one in place, and the
repetition is reported as a duplicate. Building from a list of nodes therefore keeps every id,
loses none, and the number of nodes plus the number of duplicates is the length of the list.
-/

namespace Novel.Story

/-- Nodes in order of first appearance, one per id. -/
structure Graph where
  nodes : List Node := []
  deriving Inhabited

namespace Graph

def get? (g : Graph) (id : String) : Option Node := g.nodes.find? (fun n => n.id == id)

def contains (g : Graph) (id : String) : Bool := g.nodes.any (fun n => n.id == id)

def size (g : Graph) : Nat := g.nodes.length

def firstId? (g : Graph) : Option String := g.nodes.head?.map Node.id

/-- Replace the node with the same id, or append a new one. -/
def put (g : Graph) (n : Node) : Graph :=
  if g.contains n.id then { nodes := g.nodes.map (fun m => if m.id == n.id then n else m) }
  else { nodes := g.nodes ++ [n] }

/-- Insert nodes in order; also give the ids that were already present, in order. -/
def buildFrom (g : Graph) (dups : List String) : List Node → Graph × List String
  | [] => (g, dups)
  | n :: rest =>
    let dups := if g.contains n.id then dups ++ [n.id] else dups
    buildFrom (g.put n) dups rest

/-- The graph of a list of nodes and its duplicate ids. -/
def build (ns : List Node) : Graph × List String := buildFrom {} [] ns

end Graph

end Novel.Story
