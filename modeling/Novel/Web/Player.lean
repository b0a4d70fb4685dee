import Novel.Web.Encode
import Novel.Text.Cell

/-!
# The player as a web page drives it

A web page holds one session with its save slots in memory. It passes the time as a number of
milliseconds, which may be fractional or negative: the time is rounded down and clamped to the
64-bit range. Deadlines it is sent are taken modulo `2^64`.

Every method answers JSON, or fails with a message. A failed method leaves the player as it
was. Events are not reported.

After a move, the page is told whether it reached a save point: a node whose transition is a
fade or a checkpoint, with the save slot filled.
-/

namespace Novel.Web

open Novel.Json Novel.Play Novel.Save

/-- A player driven by a web page. -/
structure WebPlayer where
  session : Session Store

/-- A time the page passes, in whole milliseconds: negative and NaN times are zero, times past
the 64-bit range are its largest value, and fractions are dropped. -/
def millis (x : Float) : Nat := (if x > 0 then x else 0).toUInt64.toNat

def deadlineJson (d : Option Nat) : Value := .opt (fun n => .nat (Play.reportedMs n)) d

namespace WebPlayer

/-- Build a player from the two tabs of a story sheet and a RON configuration; a blank
configuration means the default one. -/
def new (story metadata configRon : String) : Except String WebPlayer := do
  let config ←
    if Text.isBlankString configRon then pure ({} : Config)
    else match Config.ofRon configRon with
      | .ok c => pure c
      | .error p => throw ("Config error: " ++ p.message)
  match (Session.build (.given config) (.sheets story metadata) ({} : Store)).2 with
  | .ok s => pure ⟨s⟩
  | .error p => throw ("Load error: " ++ p.message)

/-- Run an operation of the session, dropping its events. -/
def run {α : Type} (w : WebPlayer) (a : Act Store α) : α × WebPlayer :=
  let (v, s, _) := a.run (w.session, [])
  (v, ⟨s⟩)

/-- The node just reached is a save point and the slot is filled. -/
def atSavePoint (w : WebPlayer) : Bool :=
  (w.session.currentNode.map (fun n => n.transition.autosaves)).getD false && w.session.hasSave

/-- What a method answers, and the player after it. -/
abbrev Answer := Except String Value × WebPlayer

/-- Begin a new play-through. -/
def start (w : WebPlayer) : Answer :=
  let (u, w) := w.run Session.start
  (.ok (updateJson u), w)

/-- Resume from the save slot; null when it is empty. -/
def continueSaved (w : WebPlayer) : Answer :=
  match w.run Session.continueSaved with
  | (.ok u, w') => (.ok (.opt updateJson u), w')
  | (.error p, _) => (.error ("Continue failed: " ++ p.message), w)

def hasSave (w : WebPlayer) : Bool := w.session.hasSave

/-- Select a choice at a time. -/
def select (w : WebPlayer) (index : Nat) (nowMs : Float) : Answer :=
  let (o, w) := w.run (Session.select index (millis nowMs))
  let view : Value := match o with
    | .navigated u =>
      .obj [("outcome", .str "navigated"), ("update", updateJson u), ("autosaved", .bool w.atSavePoint)]
    | .fadeStarted =>
      .obj [("outcome", .str "fadeStarted"), ("deadline_ms", deadlineJson w.session.fade.deadline)]
    | .ignored => .obj [("outcome", .str "ignored")]
    | .noSuchChoice => .obj [("outcome", .str "noSuchChoice")]
    | .danglingTarget => .obj [("outcome", .str "danglingTarget")]
  (.ok view, w)

/-- Run the fade to a time. -/
def tick (w : WebPlayer) (nowMs : Float) : Answer :=
  let (u, w) := w.run (Session.tick (millis nowMs))
  let phase := w.session.fade.phase
  (.ok (.obj [("phase", phaseJson phase), ("overlayOpacity", opacityJson phase),
    ("animated", .bool phase.animates), ("deadlineMs", deadlineJson w.session.fade.deadline),
    ("update", .opt updateJson u), ("autosaved", .bool (u.isSome && w.atSavePoint))]), w)

def phase (w : WebPlayer) : Value := phaseJson w.session.fade.phase

/-- Everything needed to show the current node. -/
def view (w : WebPlayer) : Answer :=
  let (p, w) := w.run Session.prompt
  let s := w.session
  match s.currentNode with
  | none => (.error "Current node is missing", w)
  | some n =>
    let phase := s.fade.phase
    (.ok (.obj [("nodeId", .str n.id), ("speaker", .optStr n.speaker),
      ("speakerPosition", .opt (fun q => .str q.name) n.position), ("text", .str n.displayText),
      ("prompt", promptJson p), ("continueLabel", .str s.config.continueLabel),
      ("stage", stageJson s.stage), ("phase", phaseJson phase),
      ("overlayOpacity", opacityJson phase), ("flags", Value.strs s.progress.flags)]), w)

def metadata (w : WebPlayer) : Value := metadataJson w.session.book.metadata

def savedJson (w : WebPlayer) : Except String (Option String) :=
  w.session.savedJson.mapError ("Save read failed: " ++ ·.message)

/-- Empty the save slot. -/
def deleteSave (w : WebPlayer) : Except String Unit × WebPlayer :=
  match w.run Session.deleteSave with
  | (.ok (), w') => (.ok (), w')
  | (.error p, _) => (.error ("Delete failed: " ++ p.message), w)

def exportSave (w : WebPlayer) : String := w.session.exportSave

/-- Read a save for this story and resume from it. -/
def importSave (w : WebPlayer) (json : String) : Answer :=
  match w.run (Session.importSave json) with
  | (.ok u, w') => (.ok (updateJson u), w')
  | (.error p, _) => (.error ("Import failed: " ++ p.message), w)

end WebPlayer

end Novel.Web
