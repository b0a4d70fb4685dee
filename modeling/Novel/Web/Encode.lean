import Novel.Play.Session
import Novel.Json.Value

/-!
# What a web front end is sent

A web front end receives JSON. This module fixes the shape of each value it is sent:

* a choice is `{text, target, style}`, the style named `none`, `danger` or `subtle`;
* a prompt is `{kind}` with `kind` one of `ending`, `continue` and `choose`; a Continue prompt
  carries its one choice under `choices`, a choose prompt the list of them;
* a stage update is `{music, soundEffect, sceneChanged}`, the music `{command: "play", src}`,
  `{command: "stop"}` or null;
* the stage is `{background, left, center, right, music, scene}`;
* the metadata has the fields `title`, `author`, `description`, `startNode`, `credits`, `about`,
  `theme` and `version`;
* a fade phase is its name, and the overlay opacity is written `1.0` or `0.0`.
-/

namespace Novel.Web

open Novel.Json Novel.Story Novel.Play

def choiceJson (c : Choice) : Value :=
  .obj [("text", .str c.text), ("target", .str c.target), ("style", .str c.style.name)]

/-- A prompt. -/
def promptJson : Prompt → Value
  | .ending => .obj [("kind", .str "ending")]
  | .proceed c => .obj [("kind", .str "continue"), ("choices", choiceJson c)]
  | .choose cs => .obj [("kind", .str "choose"), ("choices", .arr (cs.map choiceJson))]

/-- A music command. -/
def musicJson : Music → Value
  | .play src => .obj [("command", .str "play"), ("src", .str src)]
  | .stop => .obj [("command", .str "stop")]

/-- A stage update. -/
def updateJson (u : Update) : Value :=
  .obj [("music", .opt musicJson u.music), ("soundEffect", .optStr u.sound),
    ("sceneChanged", .bool u.sceneChanged)]

/-- The stage. -/
def stageJson (s : Stage) : Value :=
  .obj [("background", .optStr s.background), ("left", .optStr s.left),
    ("center", .optStr s.center), ("right", .optStr s.right), ("music", .optStr s.music),
    ("scene", .nat s.scene)]

/-- The metadata. -/
def metadataJson (m : Metadata) : Value :=
  .obj [("title", .str m.title), ("author", .optStr m.author),
    ("description", .optStr m.description), ("startNode", .optStr m.startNode),
    ("credits", .optStr m.credits), ("about", .optStr m.about), ("theme", .optStr m.theme),
    ("version", .optStr m.version)]

def phaseJson (p : Phase) : Value := .str p.name

/-- The overlay's opacity in a phase: full while the screen is covered. -/
def opacityJson (p : Phase) : Value := if p.covers then .number 10 1 else .number 0 1

end Novel.Web
