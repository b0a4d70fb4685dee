import Novel.Play.Config
import Novel.Play.Fade
import Novel.Play.Stage
import Novel.Play.Progress
import Novel.Story.Book
import Novel.Save.Store

/-!
# A play session

A session plays one book. It holds the player's progress, the fade sequencer, the stage, a save
store and the configuration, and it reports what happens as a list of events.

* **Starting** drops a running fade, puts the player at the start node with no flags and no
  history, empties the stage and enters the start node.
* **Selecting** the `i`-th choice of the prompt does nothing but report while a fade runs. A
  choice whose target is missing leads nowhere. A target whose transition is a fade starts the
  fade, and the move happens when the screen is black; any other target is moved to at once.
* **Ticking** runs the fade to the given time; the move to a pending target happens in the
  step into black.
* **Arriving** at a node moves the progress, enters the node on the stage and, for fade and
  checkpoint nodes, saves the progress into the store.
* **Resuming** a saved progress checks that its node exists, drops a running fade, restores the
  progress, empties the stage and enters the node.

Only a clock the host gives (the times passed to selecting and ticking) drives the fade; the
instant stamped on saves is the session's `clock`, which the host keeps current.
-/

namespace Novel.Play

open Novel.Story Novel.Save

/-- Why the player cannot be built, or an operation failed. -/
inductive PlayerProblem where
  /-- The story cannot be loaded. -/
  | sheet (p : Story.Problem)
  /-- The configuration cannot be used. -/
  | config (p : ConfigProblem)
  /-- A save cannot be used. -/
  | save (p : Save.Problem)
  /-- No story was given. -/
  | missingStory
  deriving DecidableEq, Repr, Inhabited

/-- What the problem says to a reader. -/
def PlayerProblem.message : PlayerProblem → String
  | .sheet p => "sheet error: " ++ p.message
  | .config p => "config error: " ++ p.message
  | .save p => "save error: " ++ p.message
  | .missingStory => "no story was given to the player"

/-- What a selection did. -/
inductive Outcome where
  /-- The player moved at once; the stage changed as given. -/
  | navigated (u : Update)
  /-- A fade started; the move comes with a later tick. -/
  | fadeStarted
  /-- A fade is running and input is ignored. -/
  | ignored
  /-- The prompt has no choice at that position. -/
  | noSuchChoice
  /-- The choice's target does not exist. -/
  | danglingTarget
  deriving Inhabited

/-- A play session with a save store of type `σ`. -/
structure Session (σ : Type) where
  book : Book
  config : Config
  progress : Progress
  fade : Sequencer
  stage : Stage
  store : σ
  /-- The instant stamped on saves. -/
  clock : Time.Instant := Time.Instant.epoch

/-- An operation on a session: it changes the session and emits events, in order. -/
abbrev Act (σ α : Type) := StateM (Session σ × List Event) α

namespace Session

variable {σ : Type} [Slots σ]

def current : Act σ (Session σ) := do return (← get).1

def update (f : Session σ → Session σ) : Act σ Unit := modify fun (s, es) => (f s, es)

def emit (e : Event) : Act σ Unit := modify fun (s, es) => (s, es ++ [e])

def currentNode (s : Session σ) : Option Node := s.book.node? s.progress.current

def snapshot (s : Session σ) : Record := Record.capture s.config.sheetId s.progress s.clock

def hasSave (s : Session σ) : Bool := Slots.has s.store s.config.sheetId

/-- Drop a running fade, reporting it if one ran. -/
def cancelFade : Act σ Unit := do
  let s ← current
  let (fade, wasRunning) := s.fade.cancel
  update fun s => { s with fade := fade }
  if wasRunning then emit .transitionCancelled

/-- Enter the current node on the stage. -/
def enterCurrent : Act σ Update := do
  let s ← current
  match s.currentNode with
  | none => return {}
  | some n =>
    let (stage, u) := s.stage.enter n s.config.assetBase
    update fun s => { s with stage := stage }
    emit (.nodeEntered n.id stage.scene)
    return u

/-- Save the progress into the store, reporting how it went. -/
def autosave : Act σ Unit := do
  let s ← current
  let r := s.snapshot
  let (store, outcome) := Slots.save s.store r
  update fun s => { s with store := store }
  match outcome with
  | .ok () => emit (.autosaved r.currentNodeId)
  | .error p => emit (.autosaveFailed p.message)

/-- Move to a node: progress, stage, and a save at fade and checkpoint nodes. -/
def arrive (targetId : String) (target : Node) : Act σ Update := do
  update fun s => { s with progress := s.progress.moveTo targetId target }
  let u ← enterCurrent
  if target.transition.autosaves then autosave
  return u

/-- Empty the stage, then enter the current node; the two updates are joined. -/
def reenter : Act σ Update := do
  let s ← current
  let (stage, cleared) := s.stage.reset
  update fun s => { s with stage := stage }
  let u ← enterCurrent
  return cleared.andThen u

/-- Begin a new play-through at the start node. -/
def start : Act σ Update := do
  cancelFade
  update fun s => { s with progress := Progress.start s.book.start }
  reenter

/-- Abandon the play-through and start over; the save slot is left alone. -/
def restart : Act σ Update := start

/-- The choices on offer at the current node, after the flag filter. -/
def visibleChoices : Act σ (List Choice) := do
  let s ← current
  match s.currentNode with
  | none => return []
  | some n =>
    let (kept, events) := Play.visibleChoices s.book.graph s.progress.flags n.choices
    for e in events do emit e
    return kept

/-- The prompt at the current node. -/
def prompt : Act σ Prompt := do
  let kept ← visibleChoices
  return Prompt.classify kept (← current).config.unlabeled

/-- Select the choice at position `index` of the prompt, at time `now`. -/
def select (index now : Nat) : Act σ Outcome := do
  let s ← current
  if !s.fade.idle then
    emit (.inputIgnored s.fade.phase)
    return .ignored
  let p ← prompt
  let some choice := p.get? index | return .noSuchChoice
  let s ← current
  let some target := s.book.node? choice.target
    | do emit (.danglingTarget choice.target); return .danglingTarget
  match target.transition with
  | .fade =>
    let (fade, step) := s.fade.begin choice.target target now
    update fun s => { s with fade := fade }
    emit (.phaseChanged step.before step.after)
    return .fadeStarted
  | _ => return .navigated (← arrive choice.target target)

/-- Report one step of a fade and, when it commits a pending target, move there; `entered` is
the stage update of an earlier move in the same tick. -/
def fireStep (entered : Option Update) (step : Step) : Act σ (Option Update) := do
  emit (.phaseChanged step.before step.after)
  match step.commit with
  | some pending => return some (← arrive pending.targetId pending.target)
  | none => return entered

/-- Run the fade to time `now`; the stage update of the move, if one happened. -/
def tick (now : Nat) : Act σ (Option Update) := do
  let s ← current
  let (fade, steps) := s.fade.poll now
  update fun s => { s with fade := fade }
  steps.foldlM fireStep none

def ensureNode (s : Session σ) (id : String) : Except PlayerProblem Unit :=
  if s.book.graph.contains id then .ok () else .error (.save (.unknownNode id))

/-- Resume a saved progress. -/
def resume (p : Progress) : Act σ (Except PlayerProblem Update) := do
  match ensureNode (← current) p.current with
  | .error e => return .error e
  | .ok () =>
    cancelFade
    update fun s => { s with progress := p }
    return .ok (← reenter)

/-- Resume from the save slot; nothing when it is empty. -/
def continueSaved : Act σ (Except PlayerProblem (Option Update)) := do
  let s ← current
  match Slots.load s.store s.config.sheetId with
  | .error p => return .error (.save p)
  | .ok none => return .ok none
  | .ok (some r) => return (← resume r.toProgress).map some

/-- Replace the book and start it. -/
def loadBook (b : Book) : Act σ Update := do
  cancelFade
  update fun s => { s with book := b }
  start

/-- Write the progress into the save slot. -/
def save : Act σ (Except PlayerProblem Unit) := do
  let s ← current
  let (store, outcome) := Slots.save s.store s.snapshot
  update fun s => { s with store := store }
  return outcome.mapError .save

/-- Empty the save slot. -/
def deleteSave : Act σ (Except PlayerProblem Unit) := do
  let s ← current
  let (store, outcome) := Slots.delete s.store s.config.sheetId
  update fun s => { s with store := store }
  return outcome.mapError .save

def saved (s : Session σ) : Except PlayerProblem (Option Record) :=
  (Slots.load s.store s.config.sheetId).mapError .save

def savedJson (s : Session σ) : Except PlayerProblem (Option String) :=
  (s.saved).map (Option.map Record.toJson)

def exportSave (s : Session σ) : String := s.snapshot.toJson

/-- Read a save for this story, store it and resume from it. -/
def importSave (json : String) : Act σ (Except PlayerProblem Update) := do
  let s ← current
  match Record.importFor json s.config.sheetId with
  | .error p => return .error (.save p)
  | .ok r =>
    match ensureNode s r.currentNodeId with
    | .error e => return .error e
    | .ok () =>
      let (store, outcome) := Slots.save s.store r
      update fun s => { s with store := store }
      match outcome with
      | .error p => return .error (.save p)
      | .ok () => resume r.toProgress

/-- Where the configuration of a new session comes from. -/
inductive ConfigSource where
  /-- A configuration given as a value; it is checked. -/
  | given (c : Config)
  /-- The text of a configuration file, or why it could not be read. -/
  | file (text : Except String String)
  /-- The default configuration. -/
  | default
  deriving Inhabited

/-- Where the book of a new session comes from. -/
inductive BookSource where
  /-- A book loaded already. -/
  | loaded (b : Book)
  /-- The two tabs of a story sheet, loaded when the session is built. -/
  | sheets (story metadata : String)
  /-- No book. -/
  | none
  deriving Inhabited

/-- The configuration of a source. -/
def ConfigSource.resolve : ConfigSource → Except PlayerProblem Config
  | .given c => c.validate.mapError .config
  | .file (.error m) => .error (.config (.io m))
  | .file (.ok text) => (Config.ofRon text).mapError .config
  | .default => .ok {}

/-- Build a session: the configuration first, then the book. The session stands at the start
node, with nothing entered yet. The events are those of loading the book. -/
def build (config : ConfigSource) (book : BookSource) (store : σ) :
    List Event × Except PlayerProblem (Session σ) :=
  match config.resolve with
  | .error e => ([], .error e)
  | .ok c =>
    let made : List Event × Except PlayerProblem Book :=
      match book with
      | .loaded b => ([], .ok b)
      | .sheets story metadata =>
        let (events, r) := Book.ofSheets story metadata
        (events, r.mapError .sheet)
      | .none => ([], .error .missingStory)
    match made with
    | (events, .error e) => (events, .error e)
    | (events, .ok b) =>
      (events, .ok { book := b, config := c, progress := Progress.start b.start,
                     fade := Sequencer.init c.fadeMs c.holdMs, stage := {}, store := store })

end Session

end Novel.Play
