import Novel.Story.Graph
import Novel.Story.Sheet
import Novel.Story.MetadataTab
import Novel.Table.Read
import Novel.Play.Fade

/-!
# Books

A book is a loaded story: its graph, its metadata and the node it starts at. Loading checks, in
this order, that the story tab has rows, that the metadata has a title, that there is a start
node (the metadata's, or else the first node's) and that the start node exists. It reports the
ambiguous metadata layout (once the story rows are read), every duplicate id, the defaulted
start node and, last and only on success, the loaded story.

Loading returns the events it emitted together with the book or the problem that stopped it.
-/

/-!
## Events

Loading a story and playing it report what happened as a stream of events, in the order in
which they happened. A host may record them, log them or ignore them; nothing in the engine
depends on them.
-/

namespace Novel

open Novel.Play

/-- Something worth reporting. -/
inductive Event where
  /-- A story was loaded. -/
  | loaded (title : String) (nodes : Nat) (start : String)
  /-- A node id appeared again; the later row wins. -/
  | duplicate (id : String)
  /-- The metadata names no start node, so the first node is used. -/
  | startDefaulted (id : String)
  /-- The metadata tab fits two layouts and was read as key/value. -/
  | ambiguousLayout
  /-- A choice was hidden because its target needs flags the player lacks. -/
  | choiceHidden (text target : String) (required : List String)
  /-- A chosen target is not in the story. -/
  | danglingTarget (target : String)
  /-- Input arrived during a fade and was dropped. -/
  | inputIgnored (phase : Phase)
  /-- The story arrived at a node; `scene` is the stage's scene count after entering. -/
  | nodeEntered (id : String) (scene : Nat)
  /-- The fade moved from one phase to the next. -/
  | phaseChanged (before after : Phase)
  /-- A running fade was dropped. -/
  | transitionCancelled
  /-- The game was saved on arrival. -/
  | autosaved (id : String)
  /-- Saving on arrival failed. -/
  | autosaveFailed (reason : String)
  deriving DecidableEq, Repr, Inhabited

end Novel

namespace Novel.Story

/-- A loaded story. Its start node is always in its graph: loading checks it, and nothing else
makes a book. -/
structure Book where
  graph : Graph
  metadata : Metadata
  start : String
  start_mem : graph.contains start = true

instance : Inhabited Book :=
  ⟨{ graph := { nodes := [Node.bare ""] }, metadata := default, start := "", start_mem := rfl }⟩

namespace Book

def node? (b : Book) (id : String) : Option Node := b.graph.get? id

/-- Check mapped parts and put them together. -/
def assemble (nodes : List Node) (metadata : Metadata) : List Event × Except Problem Book :=
  let (graph, dups) := Graph.build nodes
  let events := dups.map Event.duplicate
  let start? : Option (String × Metadata × List Event) :=
    match metadata.startNode with
    | some id => some (id, metadata, events)
    | none => graph.firstId?.map fun id =>
        (id, { metadata with startNode := some id }, events ++ [Event.startDefaulted id])
  match start? with
  | none => (events, .error .emptyStory)
  | some (start, metadata, events) =>
    if h : graph.contains start then
      (events ++ [Event.loaded metadata.title graph.size start],
       .ok { graph := graph, metadata := metadata, start := start, start_mem := h })
    else (events, .error (.unknownStart start))

/-- Load a book from the text of its story tab and of its metadata tab. -/
def ofSheets (story metadata : String) : List Event × Except Problem Book :=
  let storyRows := Table.read story
  let metadataRows := Table.read metadata
  match nodesOfRows storyRows with
  | .error p => ([], .error p)
  | .ok nodes =>
    let events := if MetadataTab.isAmbiguous metadataRows then [Event.ambiguousLayout] else []
    match MetadataTab.read metadataRows with
    | .error p => (events, .error p)
    | .ok m =>
      let (more, result) := assemble nodes m
      (events ++ more, result)

end Book

end Novel.Story
