import Novel.Play.Fade

/-!
# What one call to the fade sequencer does

The sequencer's state says everything about a fade: its phase, its deadline and, only while
fading out, the pending target. This file gives each call its equations, so that the session's
proofs never unfold the sequencer: `begin` starts fading out towards its target, `cancel` hides
the screen, and `poll` fires the due steps one after another.

What the session needs of `poll` is that it commits at most once: the pending target is handed
back exactly when the state is fading out and its deadline has passed, in the first step it
fires, and the state after the poll is fading out only if nothing fired.
-/

namespace Novel.Play

namespace FadeState

/-- The navigation a state commits when polled at `now`: its pending target, once due. -/
def dueBy (now : Nat) : FadeState → Option Pending
  | .out p d => if d ≤ now then some p else none
  | _ => none

theorem pending_isSome_iff (st : FadeState) : st.pending.isSome ↔ st.phase = .fadingOut := by
  cases st <;> simp [pending, phase]

theorem deadline_eq_none_iff (st : FadeState) : st.deadline = none ↔ st.phase = .hidden := by
  cases st <;> simp [deadline, phase]

theorem pending_eq_some {st : FadeState} {p : Pending} (h : st.pending = some p) :
    ∃ d, st = .out p d := by
  cases st with
  | out q d => cases h; exact ⟨d, rfl⟩
  | _ => cases h

theorem dueBy_eq_some {st : FadeState} {now : Nat} {p : Pending} (h : st.dueBy now = some p) :
    ∃ d, st = .out p d ∧ d ≤ now := by
  cases st with
  | out q d =>
    simp only [dueBy] at h
    split at h
    · cases h
      exact ⟨d, rfl, by assumption⟩
    · cases h
  | _ => cases h

end FadeState

namespace Sequencer

variable (s : Sequencer) (now : Nat)

theorem idle_iff : s.idle = true ↔ s.state = .idle := by
  cases h : s.state <;> simp [idle, phase, FadeState.phase, h]

theorem idle_eq_false_iff : s.idle = false ↔ s.phase ≠ .hidden := by
  simp [idle]

/-! ## Beginning and cancelling -/

@[simp] theorem begin_state (id : String) (target : Story.Node) (t : Nat) :
    (s.begin id target t).1.state = .out ⟨id, target⟩ (t + s.fade) := rfl

@[simp] theorem cancel_state : s.cancel.1.state = .idle := rfl

@[simp] theorem cancel_cancel : s.cancel.1.cancel.1 = s.cancel.1 := rfl

/-! ## Polling -/

theorem deadline_of_fire_none {st next : FadeState} (h : s.fire st = (next, none)) :
    st.deadline = none := by
  cases st <;> simp [fire, FadeState.deadline] at h ⊢

theorem pollFrom_idle : s.pollFrom now .idle = (.idle, []) := by
  rw [pollFrom]
  rfl

/-- A state whose deadline has not come is left as it is. -/
theorem pollFrom_early {st : FadeState} {d : Nat} (hd : st.deadline = some d) (h : now < d) :
    s.pollFrom now st = (st, []) := by
  rw [pollFrom]
  split
  · rfl
  · rename_i d' hd'
    rw [hd] at hd'
    cases hd'
    simp [Nat.not_le.2 h]

/-- Fading out ends in black, with the commit of the pending target. -/
theorem pollFrom_out {p : Pending} {d : Nat} (h : d ≤ now) :
    s.pollFrom now (.out p d) =
      ((s.pollFrom now (.black (d + s.hold))).1,
        { before := .fadingOut, after := .black, time := d, commit := some p } ::
          (s.pollFrom now (.black (d + s.hold))).2) := by
  rw [pollFrom]
  simp [FadeState.deadline, h, fire]

theorem pollFrom_black {d : Nat} (h : d ≤ now) :
    s.pollFrom now (.black d) =
      ((s.pollFrom now (.into (d + s.fade))).1,
        { before := .black, after := .fadingIn, time := d } ::
          (s.pollFrom now (.into (d + s.fade))).2) := by
  rw [pollFrom]
  simp [FadeState.deadline, h, fire]

theorem pollFrom_into {d : Nat} (h : d ≤ now) :
    s.pollFrom now (.into d) = (.idle, [{ before := .fadingIn, after := .hidden, time := d }]) := by
  rw [pollFrom]
  simp [FadeState.deadline, h, fire, pollFrom_idle]

/-! ## Polling commits at most once -/

theorem commits_pollFrom_into (d : Nat) :
    (s.pollFrom now (.into d)).2.filterMap Step.commit = [] := by
  by_cases h : d ≤ now
  · rw [pollFrom_into s now h]
    rfl
  · rw [pollFrom_early s now rfl (Nat.lt_of_not_le h)]
    rfl

theorem commits_pollFrom_black (d : Nat) :
    (s.pollFrom now (.black d)).2.filterMap Step.commit = [] := by
  by_cases h : d ≤ now
  · rw [pollFrom_black s now h, List.filterMap_cons_none rfl, commits_pollFrom_into]
  · rw [pollFrom_early s now rfl (Nat.lt_of_not_le h)]
    rfl

/-- **Polling commits exactly the pending target that is due.** -/
theorem commits_pollFrom (st : FadeState) :
    (s.pollFrom now st).2.filterMap Step.commit = (st.dueBy now).toList := by
  cases st with
  | idle => rw [pollFrom_idle]; rfl
  | out p d =>
    by_cases h : d ≤ now
    · rw [pollFrom_out s now h]
      simp [commits_pollFrom_black, FadeState.dueBy, h]
    · rw [pollFrom_early s now rfl (Nat.lt_of_not_le h)]
      simp [FadeState.dueBy, h]
  | black d => rw [commits_pollFrom_black]; rfl
  | into d => rw [commits_pollFrom_into]; rfl

theorem commits_poll : (s.poll now).2.filterMap Step.commit = (s.state.dueBy now).toList :=
  commits_pollFrom s now s.state

theorem pollFrom_into_phase (d : Nat) : (s.pollFrom now (.into d)).1.phase ≠ .fadingOut := by
  by_cases h : d ≤ now
  · rw [pollFrom_into s now h]
    simp [FadeState.phase]
  · rw [pollFrom_early s now rfl (Nat.lt_of_not_le h)]
    simp [FadeState.phase]

theorem pollFrom_black_phase (d : Nat) : (s.pollFrom now (.black d)).1.phase ≠ .fadingOut := by
  by_cases h : d ≤ now
  · rw [pollFrom_black s now h]
    exact pollFrom_into_phase s now _
  · rw [pollFrom_early s now rfl (Nat.lt_of_not_le h)]
    simp [FadeState.phase]

theorem pollFrom_out_phase {p : Pending} {d : Nat} (h : d ≤ now) :
    (s.pollFrom now (.out p d)).1.phase ≠ .fadingOut := by
  rw [pollFrom_out s now h]
  exact pollFrom_black_phase s now _

/-- The state after polling is fading out only if it was and nothing was due. -/
theorem pollFrom_eq_out {st : FadeState} {p : Pending} {d : Nat}
    (h : (s.pollFrom now st).1 = .out p d) : st = .out p d ∧ now < d := by
  have hphase : (s.pollFrom now st).1.phase = .fadingOut := by rw [h]; rfl
  cases st with
  | idle => rw [pollFrom_idle] at h; cases h
  | out q e =>
    by_cases he : e ≤ now
    · exact absurd hphase (pollFrom_out_phase s now he)
    · rw [pollFrom_early s now rfl (Nat.lt_of_not_le he)] at h
      cases h
      exact ⟨rfl, Nat.lt_of_not_le he⟩
  | black e => exact absurd hphase (pollFrom_black_phase s now e)
  | into e => exact absurd hphase (pollFrom_into_phase s now e)

theorem pollFrom_out_head {p : Pending} {d : Nat} (h : d ≤ now) :
    (s.pollFrom now (.out p d)).2.head? =
      some { before := .fadingOut, after := .black, time := d, commit := some p } := by
  rw [pollFrom_out s now h]
  rfl

@[simp] theorem poll_state : (s.poll now).1.state = (s.pollFrom now s.state).1 := rfl

theorem poll_steps : (s.poll now).2 = (s.pollFrom now s.state).2 := rfl

theorem poll_early {d : Nat} (hd : s.state.deadline = some d) (h : now < d) :
    s.poll now = (s, []) := by
  simp only [poll, pollFrom_early s now hd h]

end Sequencer
end Novel.Play
