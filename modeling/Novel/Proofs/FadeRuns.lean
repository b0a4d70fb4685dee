import Novel.Proofs.FadeSteps

/-!
# Runs of the fade sequencer

A host drives a sequencer by three calls, in any order and at any times: `begin` towards a
target, `poll` at a time, and `cancel`. Over every run of calls from a fresh sequencer:

* a target is pending exactly while fading out, and a deadline is set exactly when the screen is
  not hidden (the state carries both);
* the deadlines follow the last `begin`: if it was at `t` and only polls came after it, fading
  out ends at `t + fade`, black at `t + fade + hold` and fading in at `t + 2 * fade + hold`,
  however late the polls were, since each deadline is counted from the one before;
* cancelling tells whether a fade ran and leaves nothing pending or scheduled;
* a poll commits only in a step from fading out to black, and only the target of the last
  `begin`; the polls after a `begin`, up to the next one, commit it at most once.

The deadlines are carried by `Scheduled`, which a `begin` sets up and every fired step keeps.
The commits rest on one bound: along calls with no `begin`, the targets committed form a
sublist of what was pending at the start (`commitsAlong_sublist`). `FadeFields` carries all of
this to the sequencer whose phase, pending target and wake-up are separate fields.
-/

namespace Novel.Play

open Novel.Story

/-- A call a host makes on a sequencer. -/
inductive Call where
  /-- Start fading out towards a target at a time. -/
  | begin (targetId : String) (target : Node) (now : Nat)
  /-- Fire every step due at a time. -/
  | poll (now : Nat)
  /-- Drop the fade. -/
  | cancel
  deriving Inhabited

namespace Call

/-- The target a call starts fading towards, if it is a `begin`. -/
def begun? : Call → Option Pending
  | .begin id target _ => some ⟨id, target⟩
  | _ => none

/-- The sequencer after a call. -/
def apply (s : Sequencer) : Call → Sequencer
  | .begin id target now => (s.begin id target now).1
  | .poll now => (s.poll now).1
  | .cancel => s.cancel.1

/-- The targets a call commits: those of the steps a poll fires. -/
def commits (s : Sequencer) : Call → List Pending
  | .poll now => (s.poll now).2.filterMap Step.commit
  | _ => []

end Call

namespace Sequencer

def exec (s : Sequencer) (calls : List Call) : Sequencer := calls.foldl Call.apply s

/-- The targets committed along calls, in order. -/
def commitsAlong : Sequencer → List Call → List Pending
  | _, [] => []
  | s, c :: cs => Call.commits s c ++ commitsAlong (Call.apply s c) cs

def lastBegun (calls : List Call) : Option Pending := (calls.filterMap Call.begun?).getLast?

/-- The deadlines of a fade begun at `t`: fading out ends at `t + fade`, black at
`t + fade + hold`, fading in at `t + 2 * fade + hold`. -/
def Scheduled (fade hold t : Nat) : FadeState → Prop
  | .idle => True
  | .out _ d => d = t + fade
  | .black d => d = t + fade + hold
  | .into d => d = t + 2 * fade + hold

@[simp] theorem exec_nil (s : Sequencer) : s.exec [] = s := rfl

@[simp] theorem exec_cons (s : Sequencer) (c : Call) (cs : List Call) :
    s.exec (c :: cs) = (Call.apply s c).exec cs := rfl

theorem exec_append (s : Sequencer) (cs cs' : List Call) :
    s.exec (cs ++ cs') = (s.exec cs).exec cs' := List.foldl_append

theorem lastBegun_cons (c : Call) (cs : List Call) :
    lastBegun (c :: cs) = (lastBegun cs).or c.begun? := by
  cases h : c.begun? <;> simp [lastBegun, h, List.getLast?_cons]

@[simp] theorem apply_fade (s : Sequencer) (c : Call) : (Call.apply s c).fade = s.fade := by
  cases c <;> rfl

@[simp] theorem apply_hold (s : Sequencer) (c : Call) : (Call.apply s c).hold = s.hold := by
  cases c <;> rfl

/-! ## Polling keeps what firing keeps -/

/-- **A property of states that every fired step keeps is kept by a poll.** -/
theorem pollFrom_keeps (s : Sequencer) (now : Nat) (P : FadeState → Prop)
    (hfire : ∀ st, P st → P (s.fire st).1) (st : FadeState) (h : P st) :
    P (s.pollFrom now st).1 := by
  -- a poll fires the chain out → black → into → idle for as long as its steps are due
  have hinto : ∀ d, P (.into d) → P (s.pollFrom now (.into d)).1 := by
    intro d h
    by_cases hd : d ≤ now
    · rw [pollFrom_into s now hd]
      exact hfire _ h
    · rw [pollFrom_early s now rfl (Nat.lt_of_not_le hd)]
      exact h
  have hblack : ∀ d, P (.black d) → P (s.pollFrom now (.black d)).1 := by
    intro d h
    by_cases hd : d ≤ now
    · rw [pollFrom_black s now hd]
      exact hinto _ (hfire _ h)
    · rw [pollFrom_early s now rfl (Nat.lt_of_not_le hd)]
      exact h
  cases st with
  | idle => rw [pollFrom_idle]; exact h
  | out p d =>
    by_cases hd : d ≤ now
    · rw [pollFrom_out s now hd]
      exact hblack _ (hfire _ h)
    · rw [pollFrom_early s now rfl (Nat.lt_of_not_le hd)]
      exact h
  | black d => exact hblack d h
  | into d => exact hinto d h

/-! ## Deadlines counted from the last `begin` -/

theorem scheduled_fire (s : Sequencer) {t : Nat} {st : FadeState}
    (h : Scheduled s.fade s.hold t st) : Scheduled s.fade s.hold t (s.fire st).1 := by
  cases st <;> simp only [fire, Scheduled] at h ⊢ <;> omega

theorem scheduled_begin (s : Sequencer) (id : String) (target : Node) (t : Nat) :
    Scheduled s.fade s.hold t (s.begin id target t).1.state := by
  simp [Scheduled]

/-- **Polls keep the deadlines of the fade they run.** -/
theorem scheduled_exec_polls {t : Nat} (polls : List Call) (hpolls : ∀ c ∈ polls, ∃ now, c = .poll now)
    (s : Sequencer) (h : Scheduled s.fade s.hold t s.state) :
    Scheduled s.fade s.hold t (s.exec polls).state := by
  induction polls generalizing s with
  | nil => exact h
  | cons c polls ih =>
    obtain ⟨now, rfl⟩ := hpolls c List.mem_cons_self
    have hpoll : Scheduled s.fade s.hold t (Call.apply s (.poll now)).state :=
      pollFrom_keeps s now _ (fun _ => scheduled_fire s) s.state h
    rw [exec_cons, ← apply_fade s (.poll now), ← apply_hold s (.poll now)]
    exact ih (fun c hc => hpolls c (List.mem_cons_of_mem _ hc)) _ (by simpa using hpoll)

/-- The deadline of each phase of a fade scheduled from `t`. -/
theorem deadline_of_scheduled {fade hold t : Nat} {st : FadeState}
    (h : Scheduled fade hold t st) :
    (st.phase = .fadingOut → st.deadline = some (t + fade)) ∧
      (st.phase = .black → st.deadline = some (t + fade + hold)) ∧
      (st.phase = .fadingIn → st.deadline = some (t + 2 * fade + hold)) := by
  cases st <;> simp_all [Scheduled, FadeState.phase, FadeState.deadline]

/-! ## What is pending, and what a poll commits -/

theorem pending_poll {s : Sequencer} {now : Nat} {p : Pending}
    (h : (s.poll now).1.pending = some p) : s.pending = some p := by
  obtain ⟨d, hd⟩ := FadeState.pending_eq_some h
  obtain ⟨hs, -⟩ := pollFrom_eq_out s now hd
  simp [Sequencer.pending, hs, FadeState.pending]

theorem pending_toList_poll (s : Sequencer) (now : Nat) :
    (s.poll now).1.pending.toList.Sublist s.pending.toList := by
  cases h : (s.poll now).1.pending with
  | none => exact List.nil_sublist _
  | some p => exact (pending_poll h).symm ▸ List.Sublist.refl _

/-- After a poll that commits, nothing is pending. -/
theorem pending_poll_of_due {s : Sequencer} {now : Nat} {p : Pending}
    (h : s.state.dueBy now = some p) : (s.poll now).1.pending = none := by
  obtain ⟨d, hs, hd⟩ := FadeState.dueBy_eq_some h
  have hphase : (s.poll now).1.state.phase ≠ .fadingOut := by
    rw [poll_state, hs]
    exact pollFrom_out_phase s now hd
  exact Option.not_isSome_iff_eq_none.1 fun hsome =>
    hphase ((FadeState.pending_isSome_iff _).1 hsome)

/-- **A commit is the step from fading out to black, and carries the pending target.** -/
theorem commit_of_mem_poll {s : Sequencer} {now : Nat} {step : Step} {p : Pending}
    (hmem : step ∈ (s.poll now).2) (hc : step.commit = some p) :
    step.before = .fadingOut ∧ step.after = .black ∧ s.pending = some p := by
  -- every step after the first one of a fade-out carries no commit
  have hnone : ∀ {steps : List Step}, steps.filterMap Step.commit = [] → step ∉ steps :=
    fun h hmem' => by simp [List.filterMap_eq_nil_iff.1 h step hmem'] at hc
  rw [poll_steps] at hmem
  cases hs : s.state with
  | idle => rw [hs, pollFrom_idle] at hmem; cases hmem
  | out q d =>
    rw [hs] at hmem
    by_cases hd : d ≤ now
    · rw [pollFrom_out s now hd] at hmem
      rcases List.mem_cons.1 hmem with rfl | hrest
      · cases hc
        simp [Sequencer.pending, hs, FadeState.pending]
      · exact absurd hrest (hnone (commits_pollFrom_black s now _))
    · rw [pollFrom_early s now rfl (Nat.lt_of_not_le hd)] at hmem
      cases hmem
  | black d => rw [hs] at hmem; exact absurd hmem (hnone (commits_pollFrom_black s now d))
  | into d => rw [hs] at hmem; exact absurd hmem (hnone (commits_pollFrom_into s now d))

/-- **The pending target is the target of the last `begin`**, or, when no call began a fade,
the target pending at the start. -/
theorem pending_exec (s : Sequencer) (calls : List Call) {p : Pending}
    (h : (s.exec calls).pending = some p) :
    lastBegun calls = some p ∨ (lastBegun calls = none ∧ s.pending = some p) := by
  induction calls generalizing s with
  | nil => exact .inr ⟨rfl, h⟩
  | cons c cs ih =>
    rw [lastBegun_cons]
    rcases ih _ h with hlast | ⟨hlast, hc⟩
    · exact .inl (by rw [hlast]; rfl)
    · rw [hlast]
      cases c with
      | begin id target t =>
        simp only [Call.apply, Sequencer.pending, begin_state, FadeState.pending] at hc
        exact .inl (by rw [← hc]; rfl)
      | poll now => exact .inr ⟨rfl, pending_poll hc⟩
      | cancel => simp [Call.apply, Sequencer.pending, FadeState.pending] at hc

/-- **Along calls with no `begin`, at most what was pending is committed.** -/
theorem commitsAlong_sublist (s : Sequencer) (calls : List Call)
    (h : ∀ c ∈ calls, c.begun? = none) : (s.commitsAlong calls).Sublist s.pending.toList := by
  induction calls generalizing s with
  | nil => exact List.nil_sublist _
  | cons c cs ih =>
    have hrest := ih (Call.apply s c) (fun c' hc' => h c' (List.mem_cons_of_mem _ hc'))
    cases c with
    | begin id target t => cases h _ List.mem_cons_self
    | cancel =>
      -- after a cancel nothing is pending, so nothing more is committed
      have hnil : (Call.apply s .cancel).pending.toList = [] := rfl
      rw [hnil, List.sublist_nil] at hrest
      simp [commitsAlong, Call.commits, hrest]
    | poll now =>
      simp only [commitsAlong, Call.commits, commits_poll]
      cases hdue : s.state.dueBy now with
      | none => exact hrest.trans (pending_toList_poll s now)
      | some p =>
        -- the commit empties the pending slot, so the later calls commit nothing
        have hnil : (Call.apply s (.poll now)).pending.toList = [] := by
          simp [Call.apply, pending_poll_of_due hdue]
        rw [hnil, List.sublist_nil] at hrest
        obtain ⟨d, hs, -⟩ := FadeState.dueBy_eq_some hdue
        simp [hrest, Sequencer.pending, hs, FadeState.pending]

/-! ## Cancelling -/

/-- Cancelling tells whether a fade ran, and leaves the screen shown with nothing pending and
nothing scheduled. -/
theorem cancel_spec (s : Sequencer) :
    (s.cancel.2 = true ↔ s.phase ≠ .hidden) ∧ s.cancel.1.phase = .hidden ∧
      s.cancel.1.pending = none ∧ s.cancel.1.deadline = none := by
  cases h : s.state <;>
    simp [cancel, phase, pending, deadline, h, FadeState.phase, FadeState.pending,
      FadeState.deadline]

/-! ## Every run -/

theorem exec_fade (s : Sequencer) (calls : List Call) : (s.exec calls).fade = s.fade := by
  induction calls generalizing s with
  | nil => rfl
  | cons c cs ih => rw [exec_cons, ih, apply_fade]

theorem exec_hold (s : Sequencer) (calls : List Call) : (s.exec calls).hold = s.hold := by
  induction calls generalizing s with
  | nil => rfl
  | cons c cs ih => rw [exec_cons, ih, apply_hold]

end Sequencer

end Novel.Play
