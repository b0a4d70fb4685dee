import Novel.Proofs.SessionSteps
import Novel.Proofs.InstantRoundTrip

/-!
# Runs of a session

A host builds a session and then calls its operations in any order, at any times, and any of
them may fail. `Reachable` is the set of sessions so obtained; every statement about "every run"
is a statement about it, or about `exec` along a list of operations from one of its members.

Operations are run from an empty list of events: what a session does never depends on what it
reported before.
-/

namespace Novel.Play.Session

open Novel.Story Novel.Save

/-- An operation a host performs on a session. Reading the state (the save slot, the phase, the
deadline, the node) changes nothing and is left out. -/
inductive Op where
  | start
  | restart
  | select (index now : Nat)
  | tick (now : Nat)
  | continueSaved
  | importSave (json : String)
  | loadBook (b : Book)
  | save
  | deleteSave
  | prompt
  | visibleChoices

variable {σ : Type} [Slots σ]

/-- The session after an operation; what it returns and reports is dropped. -/
def Op.run (o : Op) (s : Session σ) : Session σ :=
  match o with
  | .start => ((Session.start : Act σ Update).run (s, [])).run.2.1
  | .restart => ((Session.restart : Act σ Update).run (s, [])).run.2.1
  | .select i now => ((Session.select i now : Act σ Outcome).run (s, [])).run.2.1
  | .tick now => ((Session.tick now : Act σ (Option Update)).run (s, [])).run.2.1
  | .continueSaved => ((Session.continueSaved : Act σ _).run (s, [])).run.2.1
  | .importSave json => ((Session.importSave json : Act σ _).run (s, [])).run.2.1
  | .loadBook b => ((Session.loadBook b : Act σ Update).run (s, [])).run.2.1
  | .save => ((Session.save : Act σ _).run (s, [])).run.2.1
  | .deleteSave => ((Session.deleteSave : Act σ _).run (s, [])).run.2.1
  | .prompt => ((Session.prompt : Act σ Prompt).run (s, [])).run.2.1
  | .visibleChoices => ((Session.visibleChoices : Act σ (List Choice)).run (s, [])).run.2.1

/-- The session after a list of operations, in order. -/
def exec : List Op → Session σ → Session σ
  | [], s => s
  | o :: os, s => exec os (o.run s)

/-- The sessions a host can reach: a session that was built, changed by any operations,
failing ones included, while the host's clock moves to any instant it can show, well formed and
in a four-digit year. -/
inductive Reachable : Session σ → Prop
  | built {config : ConfigSource} {book : BookSource} {store : σ} {events : List Event}
      {s : Session σ} : build config book store = (events, .ok s) → Reachable s
  | step {s : Session σ} (o : Op) : Reachable s → Reachable (o.run s)
  | clock {s : Session σ} (t : Time.Instant) (hwf : t.WellFormed)
      (hyear : 0 ≤ t.date.year ∧ t.date.year ≤ 9999) : Reachable s → Reachable { s with clock := t }

theorem Reachable.exec {s : Session σ} (h : Reachable s) (os : List Op) :
    Reachable (Session.exec os s) := by
  induction os generalizing s with
  | nil => exact h
  | cons o os ih => exact ih (h.step o)

/-! ## A sample session -/

/-- A two-node book: a door whose one choice fades into a room. -/
def sampleBook : Book where
  graph := { nodes := [{ id := "door", choices := [{ text := "Enter", target := "room" }] },
                       { id := "room", transition := .fade }] }
  metadata := { title := "Sample" }
  start := "door"
  start_mem := by decide

/-- The session built from the sample book, with the default configuration and an empty
store. -/
def sampleSession : Session Store :=
  { book := sampleBook, config := {}, progress := Progress.start "door",
    fade := Sequencer.init 600 50, stage := {}, store := {} }

theorem sampleSession_reachable : Reachable sampleSession :=
  .built (show build .default (.loaded sampleBook) ({} : Store) = ([], .ok sampleSession) from rfl)

end Novel.Play.Session
