import Novel.Proofs.FadeSteps

/-!
# A poll fires at most three steps

`poll` fires steps for as long as the state's deadline has passed. Time does not end that
loop: each step schedules the next deadline from the one it fired at, so with a zero fade or a
zero hold the new deadline is the old one and is due again at once. What ends it is the order of
the phases. The *rank* of a state counts the steps it has left before it is hidden (fading out
3, black 2, fading in 1, hidden 0):

* every step fired lowers the rank by exactly one (`rank_fire_add_one`), and a hidden state has
  no deadline, so nothing fires from it;
* hence the steps a poll fires and the rank it leaves add up to the rank it started from
  (`pollFrom_length_add_rank`), and the loop stops with nothing due (`pollFrom_nothing_due`).

Together these bound every poll by three steps, whatever the durations, zero included, and
whatever the time (`poll_fires_at_most_three`). The bound is met: with no fade and no hold, a
poll that finds fading out due runs the whole fade at its deadline (`pollFrom_out_instant`).
-/

namespace Novel.Play

namespace FadeState

theorem rank_le_three (st : FadeState) : st.rank ≤ 3 := by
  cases st <;> simp [rank]

end FadeState

namespace Sequencer

variable (s : Sequencer)

theorem rank_fire_add_one {st next : FadeState} {step : Step}
    (h : s.fire st = (next, some step)) : next.rank + 1 = st.rank := by
  cases st <;> simp only [fire, Prod.mk.injEq, reduceCtorEq, and_false] at h <;>
    obtain ⟨rfl, -⟩ := h <;> rfl

/-- **The steps a poll fires and the rank it leaves add up to the rank it started from.** -/
theorem pollFrom_length_add_rank (now : Nat) (st : FadeState) :
    (s.pollFrom now st).2.length + (s.pollFrom now st).1.rank = st.rank := by
  fun_induction s.pollFrom now st with
  | case1 st hd => simp
  | case2 st d hd hle next step hf last steps hpoll ih =>
    -- one step fired, and the rest of the poll starts one rank lower
    rw [hpoll] at ih
    have hrank := rank_fire_add_one s hf
    simp only [List.length_cons] at ih ⊢
    omega
  | case3 st d hd hle next hf => simp [deadline_of_fire_none s hf] at hd
  | case4 st d hd hlt => simp

/-- A poll stops only when nothing more is due: the state it leaves is hidden or waits for a
deadline after `now`. -/
theorem pollFrom_nothing_due (now : Nat) (st : FadeState) :
    ∀ d ∈ (s.pollFrom now st).1.deadline, now < d := by
  fun_induction s.pollFrom now st with
  | case1 st hd =>
    intro d hmem
    simp [hd] at hmem
  | case2 st d hd hle next step hf last steps hpoll ih =>
    rw [hpoll] at ih
    exact ih
  | case3 st d hd hle next hf => simp [deadline_of_fire_none s hf] at hd
  | case4 st d hd hlt =>
    intro e hmem
    -- the deadline left is the one found not yet due
    have he : e = d := Option.some.inj ((Option.mem_def.1 hmem).symm.trans hd)
    omega

/-- **A poll ends after at most three steps.** It stops with nothing due, and each step it
fired moved the fade one phase on towards hidden, so it fired as many steps as the rank fell,
which is at most three. This holds for every state, every fade and hold, zero included, and
every time. -/
theorem poll_fires_at_most_three (now : Nat) :
    (∀ d ∈ (s.poll now).1.deadline, now < d) ∧
      (s.poll now).2.length + (s.poll now).1.state.rank = s.state.rank ∧
      (s.poll now).2.length ≤ 3 := by
  have hrun : (s.poll now).2.length + (s.poll now).1.state.rank = s.state.rank :=
    s.pollFrom_length_add_rank now s.state
  refine ⟨s.pollFrom_nothing_due now s.state, hrun, ?_⟩
  calc (s.poll now).2.length ≤ s.state.rank := by omega
    _ ≤ 3 := s.state.rank_le_three

/-- With no fade and no hold every deadline of a fade is its first, so a poll that finds fading
out due fires all three steps at that deadline and leaves the screen hidden. -/
theorem pollFrom_out_instant (now : Nat) {p : Pending} {d : Nat} (hfade : s.fade = 0)
    (hhold : s.hold = 0) (h : d ≤ now) :
    s.pollFrom now (.out p d) =
      (.idle, [{ before := .fadingOut, after := .black, time := d, commit := some p },
        { before := .black, after := .fadingIn, time := d },
        { before := .fadingIn, after := .hidden, time := d }]) := by
  rw [pollFrom_out s now h, pollFrom_black s now (by omega), pollFrom_into s now (by omega)]
  simp [hfade, hhold]

end Sequencer

end Novel.Play
