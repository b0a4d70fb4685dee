import Novel.Text.Cell

/-!
# Story metadata

The metadata of a story: a title, which every playable story has, and optional author,
description, start node, credits, about text, theme and version.

Labels in the metadata tab are matched against a table of aliases after trimming and lowering
their case, so `Game Title`, ` NAME ` and `title` all name the title. Setting a field to an
empty value does nothing.
-/

namespace Novel.Story

/-- The story's metadata. -/
structure Metadata where
  title : String := ""
  author : Option String := none
  description : Option String := none
  startNode : Option String := none
  credits : Option String := none
  about : Option String := none
  theme : Option String := none
  version : Option String := none
  deriving DecidableEq, Repr, Inhabited

/-- A field of the metadata. -/
inductive Field where
  | title
  | author
  | description
  | startNode
  | credits
  | about
  | theme
  | version
  deriving DecidableEq, Repr, Inhabited

namespace Field

/-- The labels that name each field, in lowercase. -/
def aliases : Field → List String
  | .title => ["title", "game title", "game_title", "name", "game name"]
  | .author => ["author", "authors", "by", "creator"]
  | .description => ["description", "tagline", "summary", "blurb"]
  | .startNode => ["start_node", "startnode", "start node", "start", "first node"]
  | .credits => ["credits"]
  | .about => ["about"]
  | .theme => ["theme"]
  | .version => ["version", "game version"]

def all : List Field := [.title, .author, .description, .startNode, .credits, .about, .theme, .version]

def ofLabel (label : String) : Option Field :=
  all.find? (fun f => (aliases f).any (fun a => Text.isWord label.toList a))

/-- The field's key in camel case. -/
def key : Field → String
  | .title => "title"
  | .author => "author"
  | .description => "description"
  | .startNode => "startNode"
  | .credits => "credits"
  | .about => "about"
  | .theme => "theme"
  | .version => "version"

end Field

/-- Set a field; an empty value leaves the metadata as it was. -/
def Metadata.set (m : Metadata) (f : Field) (v : String) : Metadata :=
  if v.isEmpty then m
  else
    match f with
    | .title => { m with title := v }
    | .author => { m with author := some v }
    | .description => { m with description := some v }
    | .startNode => { m with startNode := some v }
    | .credits => { m with credits := some v }
    | .about => { m with about := some v }
    | .theme => { m with theme := some v }
    | .version => { m with version := some v }

example : Field.ofLabel "key" = none := by decide

end Novel.Story
