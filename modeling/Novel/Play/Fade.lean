import Novel.Story.Node

/-!
# Fading between nodes

A fade hides the screen while the story moves on. It runs through four phases:

    hidden ──begin──▶ fading-out ──fade──▶ black ──hold──▶ fading-in ──fade──▶ hidden

The move to the target node happens at the step from fading-out to black, which hands the
pending target back to the caller (the *commit*). Beginning again while a fade runs restarts
fading out towards the new target; cancelling drops everything and shows the screen at once.

Time is supplied by the caller in whole milliseconds and the sequencer never reads a clock.
Each state that waits carries its deadline, so a phase has a deadline exactly when it is not
hidden, and only the fading-out state has a pending target. `poll` fires every step whose
deadline has passed, in order; a state can fire at most three times before it is hidden, which
is the measure that makes `poll` terminate.

Times are exact inside the sequencer, even past 2^64 ms. Reported to the outside they are
64-bit counts, which wrap (`reportedMs`): a deadline past the range is shown as a small number
though it has not passed.
-/

namespace Novel.Play

open Novel.Story

/-- The phases of a fade. -/
inductive Phase where
  | hidden
  | fadingOut
  | black
  | fadingIn
  deriving DecidableEq, Repr, Inhabited

namespace Phase

/-- The overlay covers the screen while fading out and while black. -/
def covers : Phase → Bool
  | .fadingOut => true
  | .black => true
  | _ => false

/-- The overlay moves while fading out or in. -/
def animates : Phase → Bool
  | .fadingOut => true
  | .fadingIn => true
  | _ => false

/-- The phase's name. -/
def name : Phase → String
  | .hidden => "hidden"
  | .fadingOut => "fading-out"
  | .black => "black"
  | .fadingIn => "fading-in"

end Phase

/-- Where a running fade will take the story. -/
structure Pending where
  targetId : String
  target : Node
  deriving DecidableEq, Repr, Inhabited

/-- The state of a fade, each waiting state with its deadline. -/
inductive FadeState where
  | idle
  | out (pending : Pending) (due : Nat)
  | black (due : Nat)
  | into (due : Nat)
  deriving DecidableEq, Repr, Inhabited

/-- One step from a phase to the next, at a time, with the commit on fading-out to black. -/
structure Step where
  before : Phase
  after : Phase
  time : Nat
  commit : Option Pending := none
  deriving DecidableEq, Repr, Inhabited

/-- A fade sequencer: the two durations and the state. -/
structure Sequencer where
  fade : Nat
  hold : Nat
  state : FadeState := .idle
  deriving DecidableEq, Repr, Inhabited

namespace FadeState

/-- The phase of a state. -/
def phase : FadeState → Phase
  | .idle => .hidden
  | .out _ _ => .fadingOut
  | .black _ => .black
  | .into _ => .fadingIn

/-- The pending target, present only while fading out. -/
def pending : FadeState → Option Pending
  | .out p _ => some p
  | _ => none

/-- The next deadline, present unless hidden. -/
def deadline : FadeState → Option Nat
  | .idle => none
  | .out _ d => some d
  | .black d => some d
  | .into d => some d

/-- Steps left before the fade is over. -/
def rank : FadeState → Nat
  | .idle => 0
  | .out _ _ => 3
  | .black _ => 2
  | .into _ => 1

end FadeState

namespace Sequencer

def init (fade hold : Nat) : Sequencer := { fade := fade, hold := hold }

def phase (s : Sequencer) : Phase := s.state.phase

def idle (s : Sequencer) : Bool := s.phase == .hidden

def pending (s : Sequencer) : Option Pending := s.state.pending

def deadline (s : Sequencer) : Option Nat := s.state.deadline

/-- Start fading out towards a target at time `now`. -/
def begin (s : Sequencer) (targetId : String) (target : Node) (now : Nat) : Sequencer × Step :=
  ({ s with state := .out ⟨targetId, target⟩ (now + s.fade) },
   { before := s.phase, after := .fadingOut, time := now })

def cancel (s : Sequencer) : Sequencer × Bool :=
  ({ s with state := .idle }, s.state != .idle)

/-- The step a state takes at its deadline, and the state after it. -/
def fire (s : Sequencer) : FadeState → FadeState × Option Step
  | .idle => (.idle, none)
  | .out p d =>
    (.black (d + s.hold), some { before := .fadingOut, after := .black, time := d, commit := some p })
  | .black d => (.into (d + s.fade), some { before := .black, after := .fadingIn, time := d })
  | .into d => (.idle, some { before := .fadingIn, after := .hidden, time := d })

theorem rank_fire (s : Sequencer) (st : FadeState) (h : st ≠ .idle) :
    (s.fire st).1.rank < st.rank := by
  cases st <;> simp_all [fire, FadeState.rank]

-- `hd` and `hf` are read only by the termination proof, which the linter does not see
set_option linter.unusedVariables false in
/-- Fire every step whose deadline is at or before `now`, from a given state. -/
def pollFrom (s : Sequencer) (now : Nat) (st : FadeState) : FadeState × List Step :=
  match hd : st.deadline with
  | none => (st, [])
  | some d =>
    if d ≤ now then
      match hf : s.fire st with
      | (next, some step) =>
        let (last, steps) := pollFrom s now next
        (last, step :: steps)
      | (next, none) => (next, [])
    else (st, [])
termination_by st.rank
decreasing_by
  have hne : st ≠ .idle := by intro h; subst h; simp [FadeState.deadline] at hd
  have := rank_fire s st hne
  rw [hf] at this
  exact this

/-- Fire every step whose deadline is at or before `now`. -/
def poll (s : Sequencer) (now : Nat) : Sequencer × List Step :=
  let (st, steps) := s.pollFrom now s.state
  ({ s with state := st }, steps)

end Sequencer

/-! ## The sequencer as three fields

The sequencer as it is written keeps the phase, the pending target and the next wake-up in
three fields of their own, and nothing in their types ties them together: firing from fading
out takes the pending target, a hidden phase fires like fading in, and the loop of `poll` runs
for as long as a wake-up is set and due. `FadeSequencer` is that machine, call for call.
`Sequencer.fields` reads a fused state as the three fields; the proofs show that the calls on
the fields follow the calls on the fused state, so every run from `new` stays such a reading.
-/

/-- A fade sequencer whose phase, pending target and wake-up are separate fields. -/
structure FadeSequencer where
  fade : Nat
  hold : Nat
  phase : Phase := .hidden
  pending : Option Pending := none
  wakeAt : Option Nat := none
  deriving DecidableEq, Repr, Inhabited

namespace FadeSequencer

/-- A fresh sequencer: hidden, with nothing pending or scheduled. -/
def new (fade hold : Nat) : FadeSequencer := { fade := fade, hold := hold }

def isIdle (r : FadeSequencer) : Bool := r.phase == .hidden

/-- Start fading out towards a target; whatever was pending or scheduled is replaced. -/
def begin (r : FadeSequencer) (targetId : String) (target : Node) (now : Nat) :
    FadeSequencer × Step :=
  ({ r with pending := some ⟨targetId, target⟩, phase := .fadingOut, wakeAt := some (now + r.fade) },
   { before := r.phase, after := .fadingOut, time := now })

/-- Drop the wake-up and the pending target and return to hidden; tell whether there was
anything to drop. -/
def cancel (r : FadeSequencer) : FadeSequencer × Bool :=
  ({ r with phase := .hidden, pending := none, wakeAt := none }, !r.isIdle || r.pending.isSome)

/-- The step of a wake-up due at `due`: the next wake-up is counted from `due`, and the step into
black takes the pending target. -/
def fire (r : FadeSequencer) (due : Nat) : FadeSequencer × Step :=
  match r.phase with
  | .fadingOut =>
    ({ r with phase := .black, wakeAt := some (due + r.hold), pending := none },
      { before := .fadingOut, after := .black, time := due, commit := r.pending })
  | .black =>
    ({ r with phase := .fadingIn, wakeAt := some (due + r.fade) },
      { before := .black, after := .fadingIn, time := due })
  | .fadingIn | .hidden =>
    ({ r with phase := .hidden, wakeAt := none }, { before := r.phase, after := .hidden, time := due })

/-- Steps the loop of `poll` can still take: the phases left before hidden, and one more while
a wake-up is set. -/
def stepsLeft (r : FadeSequencer) : Nat :=
  (match r.phase with
    | .fadingOut => 3
    | .black => 2
    | .fadingIn => 1
    | .hidden => 0) + (if r.wakeAt.isSome then 1 else 0)

theorem stepsLeft_fire (r : FadeSequencer) {due : Nat} (h : r.wakeAt = some due) :
    (r.fire due).1.stepsLeft < r.stepsLeft := by
  cases hp : r.phase <;> simp [fire, stepsLeft, hp, h]

set_option linter.unusedVariables false in
/-- Fire every wake-up due at or before `now`, in order. -/
def poll (r : FadeSequencer) (now : Nat) : FadeSequencer × List Step :=
  match hw : r.wakeAt with
  | some due =>
    if due ≤ now then
      match hf : r.fire due with
      | (next, step) =>
        let (last, steps) := poll next now
        (last, step :: steps)
    else (r, [])
  | none => (r, [])
termination_by r.stepsLeft
decreasing_by
  have := stepsLeft_fire r hw
  rw [hf] at this
  exact this

end FadeSequencer

def Sequencer.fields (s : Sequencer) : FadeSequencer :=
  { fade := s.fade, hold := s.hold, phase := s.phase, pending := s.pending, wakeAt := s.deadline }

/-- A time in milliseconds as it is reported: a 64-bit count, so a time past 2^64 - 1 wraps
around. -/
def reportedMs (ms : Nat) : Nat := ms % Nat.pow 2 64

example : reportedMs (Nat.pow 2 64 + 34) = 34 := by decide

end Novel.Play
