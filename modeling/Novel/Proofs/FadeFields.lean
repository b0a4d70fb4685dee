import Novel.Proofs.FadeRuns

/-!
# The three fields follow the fused state

`FadeSequencer` keeps its phase, its pending target and its next wake-up in three fields, and
nothing in their types ties them together: a phase of fading out with nothing pending, or a
hidden phase with a wake-up set, are values like any other. `Sequencer` fuses the three into one
state. Read a fused state as three fields (`Sequencer.fields`) and every call agrees:

* beginning and cancelling the fields of a state give the fields of the state the fused call
  leaves, with the same step and the same answer (`begin_fields`, `cancel_fields`); cancelling
  answers `!isIdle || pending.isSome`, which on such fields is whether a fade ran;
* firing the fields at their wake-up is the fused step (`fire_fields`), so, by induction over the
  fused poll, polling the fields is the fused poll (`poll_fields`).

A fresh `FadeSequencer` is the reading of a fresh `Sequencer`, so along every run of calls the
three fields are the reading of the fused state the same calls reach (`exec_fields`): that is
the invariant that ties them. What the fused runs satisfy then holds of the fields
(`fade_fields_invariant`).
-/

namespace Novel.Play

open Novel.Story

namespace FadeSequencer

variable (r : FadeSequencer) (now : Nat)

theorem poll_of_not_due (h : ∀ d ∈ r.wakeAt, now < d) : r.poll now = (r, []) := by
  rw [poll]
  split
  · rename_i d hw
    simp [Nat.not_le.2 (h d (Option.mem_def.2 hw))]
  · rfl

theorem poll_of_due {d : Nat} (hw : r.wakeAt = some d) (h : d ≤ now) :
    r.poll now = (((r.fire d).1.poll now).1, (r.fire d).2 :: ((r.fire d).1.poll now).2) := by
  rw [poll]
  split
  · rename_i d' hw'
    rw [hw] at hw'
    cases hw'
    simp [h]
  · rename_i hw'
    rw [hw] at hw'
    cases hw'

/-- The sequencer after a call. -/
def apply (r : FadeSequencer) : Call → FadeSequencer
  | .begin id target now => (r.begin id target now).1
  | .poll now => (r.poll now).1
  | .cancel => r.cancel.1

def exec (r : FadeSequencer) (calls : List Call) : FadeSequencer := calls.foldl apply r

/-- The targets a call commits: those of the steps a poll fires. -/
def commits (r : FadeSequencer) : Call → List Pending
  | .poll now => (r.poll now).2.filterMap Step.commit
  | _ => []

/-- The targets committed along calls, in order. -/
def commitsAlong : FadeSequencer → List Call → List Pending
  | _, [] => []
  | r, c :: cs => r.commits c ++ commitsAlong (r.apply c) cs

end FadeSequencer

namespace Sequencer

variable (s : Sequencer) (now : Nat)

@[simp] theorem fields_phase : s.fields.phase = s.phase := rfl

@[simp] theorem fields_pending : s.fields.pending = s.pending := rfl

@[simp] theorem fields_wakeAt : s.fields.wakeAt = s.deadline := rfl

theorem init_fields (fade hold : Nat) : (init fade hold).fields = FadeSequencer.new fade hold :=
  rfl

/-! ## One call at a time -/

theorem begin_fields (id : String) (target : Node) (t : Nat) :
    s.fields.begin id target t = ((s.begin id target t).1.fields, (s.begin id target t).2) :=
  rfl

/-- Cancelling the fields drops what the fused cancel drops, with the same answer. -/
theorem cancel_fields : s.fields.cancel = (s.cancel.1.fields, s.cancel.2) := by
  -- only fading out has a pending target, so the fields' answer is whether a fade ran
  have hanswer : (!s.fields.isIdle || s.fields.pending.isSome) = (s.state != .idle) := by
    obtain ⟨fade, hold, st⟩ := s
    cases st <;> rfl
  exact Prod.ext rfl hanswer

/-- Firing the fields of a state at its deadline is the fused step. -/
theorem fire_fields {st next : FadeState} {step : Step} (hf : s.fire st = (next, some step))
    {d : Nat} (hd : st.deadline = some d) :
    { s with state := st }.fields.fire d = ({ s with state := next }.fields, step) := by
  -- the fused step fixes the next state and the step; the deadline is the one fired at
  cases st with
  | idle => cases hf
  | out _ e | black e | into e =>
    cases hf
    cases hd
    rfl

/-- **Polling the fields of a state is the fused poll.** -/
theorem pollFrom_fields (st : FadeState) :
    { s with state := st }.fields.poll now =
      ({ s with state := (s.pollFrom now st).1 }.fields, (s.pollFrom now st).2) := by
  fun_induction s.pollFrom now st with
  | case1 st hd =>
    -- no deadline, so no wake-up: the loop does not start
    exact FadeSequencer.poll_of_not_due _ _ (by simp [fields, deadline, hd])
  | case2 st d hd hle next step hf last steps hpoll ih =>
    rw [hpoll] at ih
    rw [FadeSequencer.poll_of_due _ _ (d := d) hd hle, fire_fields s hf hd, ih]
  | case3 st d hd hle next hf => simp [deadline_of_fire_none s hf] at hd
  | case4 st d hd hlt =>
    refine FadeSequencer.poll_of_not_due _ _ fun e he => ?_
    have he' : e = d := Option.some.inj ((Option.mem_def.1 he).symm.trans hd)
    omega

theorem poll_fields : s.fields.poll now = ((s.poll now).1.fields, (s.poll now).2) :=
  pollFrom_fields s now s.state

/-! ## Whole runs -/

theorem apply_fields (c : Call) : s.fields.apply c = (Call.apply s c).fields := by
  cases c with
  | begin id target t => rw [FadeSequencer.apply, begin_fields]; rfl
  | poll now => rw [FadeSequencer.apply, poll_fields]; rfl
  | cancel => rw [FadeSequencer.apply, cancel_fields]; rfl

/-- **Along every run, the three fields are the reading of the fused state.** -/
theorem exec_fields (calls : List Call) : s.fields.exec calls = (s.exec calls).fields := by
  induction calls generalizing s with
  | nil => rfl
  | cons c cs ih =>
    show (s.fields.apply c).exec cs = ((Call.apply s c).exec cs).fields
    rw [apply_fields, ih]

theorem commitsAlong_fields (calls : List Call) :
    s.fields.commitsAlong calls = s.commitsAlong calls := by
  induction calls generalizing s with
  | nil => rfl
  | cons c cs ih =>
    have hcommits : s.fields.commits c = Call.commits s c := by
      cases c with
      | poll now => simp only [FadeSequencer.commits, Call.commits, poll_fields]
      | _ => rfl
    rw [FadeSequencer.commitsAlong, commitsAlong, hcommits, apply_fields, ih]

/-- A run whose last `begin` is at `t`, followed only by polls, leaves a state scheduled from
`t`. -/
theorem scheduled_after_begin (fade hold : Nat) (pre : List Call) (id : String) (target : Node)
    (t : Nat) {polls : List Call} (hpolls : ∀ c ∈ polls, ∃ now, c = .poll now) :
    Scheduled fade hold t ((init fade hold).exec (pre ++ .begin id target t :: polls)).state := by
  let s₀ := (init fade hold).exec pre
  -- the `begin` schedules its fade, and the polls after it keep the schedule
  have hrun := scheduled_exec_polls polls hpolls (s₀.begin id target t).1
    (scheduled_begin s₀ id target t)
  have hfade : (s₀.begin id target t).1.fade = fade := exec_fade _ _
  have hhold : (s₀.begin id target t).1.hold = hold := exec_hold _ _
  rw [hfade, hhold] at hrun
  rw [exec_append]
  exact hrun

end Sequencer

namespace FadeSequencer

theorem exec_new (fade hold : Nat) (calls : List Call) :
    (new fade hold).exec calls = ((Sequencer.init fade hold).exec calls).fields := by
  rw [← Sequencer.init_fields, Sequencer.exec_fields]

/-- **The fade sequencer's invariant, on its three fields.** Over every run of calls from a fresh
sequencer: a target is pending exactly while fading out, and a wake-up is set exactly unless the
screen is hidden; after a `begin` at `t` followed only by polls, each phase's wake-up is counted
from `t`; cancelling answers whether the phase was not hidden and leaves nothing pending or
scheduled; every commit of a poll is a step from fading out to black carrying the target of the
last `begin`; and the polls after a `begin`, up to the next one, commit at most once. -/
theorem fade_fields_invariant (fade hold : Nat) :
    (∀ calls : List Call, let r := (new fade hold).exec calls
      (r.pending.isSome = true ↔ r.phase = .fadingOut) ∧ (r.wakeAt = none ↔ r.phase = .hidden)) ∧
    (∀ (pre : List Call) (id : String) (target : Node) (t : Nat) (polls : List Call),
      (∀ c ∈ polls, ∃ now, c = .poll now) →
      let r := (new fade hold).exec (pre ++ .begin id target t :: polls)
      (r.phase = .fadingOut → r.wakeAt = some (t + fade)) ∧
        (r.phase = .black → r.wakeAt = some (t + fade + hold)) ∧
        (r.phase = .fadingIn → r.wakeAt = some (t + 2 * fade + hold))) ∧
    (∀ calls : List Call, let r := (new fade hold).exec calls
      (r.cancel.2 = true ↔ r.phase ≠ .hidden) ∧ r.cancel.1.phase = .hidden ∧
        r.cancel.1.pending = none ∧ r.cancel.1.wakeAt = none) ∧
    (∀ (calls : List Call) (now : Nat) (step : Step) (p : Pending),
      step ∈ ((new fade hold).exec calls |>.poll now).2 → step.commit = some p →
      step.before = .fadingOut ∧ step.after = .black ∧ Sequencer.lastBegun calls = some p) ∧
    (∀ (pre : List Call) (id : String) (target : Node) (t : Nat) (rest : List Call),
      (∀ c ∈ rest, c.begun? = none) →
      (((new fade hold).exec (pre ++ [.begin id target t])).commitsAlong rest).length ≤ 1) := by
  refine ⟨fun calls => ?_, fun pre id target t polls hpolls => ?_, fun calls => ?_,
    fun calls now step p hmem hc => ?_, fun pre id target t rest hrest => ?_⟩
  · -- the fields of a fused state are tied by the state's shape
    rw [exec_new]
    exact ⟨FadeState.pending_isSome_iff _, FadeState.deadline_eq_none_iff _⟩
  · rw [exec_new]
    exact Sequencer.deadline_of_scheduled
      (Sequencer.scheduled_after_begin fade hold pre id target t hpolls)
  · dsimp only
    rw [exec_new, Sequencer.cancel_fields]
    exact Sequencer.cancel_spec _
  · rw [exec_new, Sequencer.poll_fields] at hmem
    obtain ⟨hbefore, hafter, hpending⟩ := Sequencer.commit_of_mem_poll hmem hc
    refine ⟨hbefore, hafter, ?_⟩
    -- a fresh sequencer has nothing pending, so the target came from a `begin`
    rcases Sequencer.pending_exec _ calls hpending with hlast | ⟨-, hinit⟩
    · exact hlast
    · cases hinit
  · rw [exec_new, Sequencer.commitsAlong_fields]
    have hsub := Sequencer.commitsAlong_sublist
      ((Sequencer.init fade hold).exec (pre ++ [.begin id target t])) rest hrest
    have hpending : ((Sequencer.init fade hold).exec (pre ++ [.begin id target t])).pending =
        some ⟨id, target⟩ := by
      rw [Sequencer.exec_append]
      rfl
    rw [hpending] at hsub
    exact hsub.length_le

/-- Beginning again at 300 restarts the timer: a poll at 600 leaves the sequencer fading out
towards the new target, with its wake-up at 900. -/
theorem reentry_restarts_wakeAt :
    ((new 600 50).exec [.begin "B" { id := "B" } 0, .begin "C" { id := "C" } 300, .poll 600]).phase =
        .fadingOut ∧
      ((new 600 50).exec
        [.begin "B" { id := "B" } 0, .begin "C" { id := "C" } 300, .poll 600]).wakeAt = some 900 := by
  have hphase : ((new 600 50).exec
      [.begin "B" { id := "B" } 0, .begin "C" { id := "C" } 300, .poll 600]).phase =
        .fadingOut := by decide +kernel
  exact ⟨hphase, ((fade_fields_invariant 600 50).2.1 [.begin "B" { id := "B" } 0] "C" { id := "C" } 300
    [.poll 600] (by simp)).1 hphase⟩

end FadeSequencer

end Novel.Play
