import Novel.Story.Book

/-!
# The terminal program's log

The terminal program writes the engine's events to its error stream, one line each, at the
levels *info*, *warn* and *error*; events below *info* are not written. A line is the level,
the component that logs, the message and then each field as `name=value`, the value as it reads.
-/

namespace Novel.Terminal

/-- How serious a logged event is. -/
inductive Level where
  | info
  | warn
  | error
  deriving DecidableEq, Repr, Inhabited

/-- The level as the log writes it. -/
def Level.name : Level → String
  | .info => "INFO"
  | .warn => "WARN"
  | .error => "ERROR"

/-- One log line, without its line break. -/
def logLine (level : Level) (message : String) (fields : List (String × String)) : String :=
  " ".intercalate
    ([level.name, "storysheet::core::observer:", message] ++ fields.map fun (k, v) => k ++ "=" ++ v)

/-- The log line of an event, if its level is written. -/
def eventLine? : Event → Option String
  | .loaded title nodes start =>
    some (logLine .info "Story loaded"
      [("title", title), ("nodes", toString nodes), ("start_node", start)])
  | .duplicate id => some (logLine .warn "Duplicate node id, later row wins" [("node_id", id)])
  | .startDefaulted id =>
    some (logLine .info "No start node in metadata, defaulting to first node" [("node_id", id)])
  | .ambiguousLayout =>
    some (logLine .warn "Metadata tab is two rows by two columns; reading it as key/value" [])
  | .danglingTarget target => some (logLine .warn "Choice target does not exist" [("target", target)])
  | .autosaved id => some (logLine .info "Autosaved" [("node_id", id)])
  | .autosaveFailed reason => some (logLine .error "Failed to save game data" [("reason", reason)])
  | .choiceHidden .. | .inputIgnored _ | .nodeEntered .. | .phaseChanged .. | .transitionCancelled =>
    none

/-- The log of a list of events: one line, with its break, for each written event. -/
def logText (events : List Event) : String :=
  String.join (events.filterMap fun e => (eventLine? e).map (· ++ "\n"))

example :
    eventLine? (.autosaved "cellar") = some "INFO storysheet::core::observer: Autosaved node_id=cellar" := by
  decide

end Novel.Terminal
