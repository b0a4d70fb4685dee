import Mathlib.Data.List.Induction
import Novel.Proofs.FadeRuns
import Novel.Proofs.OperationRuns
import Novel.Web.Player

/-!
# Deadlines and how a web page is told them

A fade's deadlines are sums of the time it began and the configured durations, each counted
from the one before: fading out ends at `t + fade`, black at `t + fade + hold`, fading in at
`t + 2 * fade + hold`. Over every run of calls on a sequencer, a deadline is at most the time
of the last `begin` plus `2 * fade + hold` (`deadline_le_lastBeganAt`). With the time and both
durations in the 64-bit range of milliseconds, that is below `2^66` ms, far inside what a
duration of the runtime holds, so no addition overflows.

A web page passes its times as numbers that are clamped to the 64-bit range, and is sent the
deadline as a 64-bit count, which wraps: after a selection that starts a fade and after every
tick, the page is told the next deadline modulo `2^64`. That is the deadline itself exactly when
it is below `2^64` ms. A fade begun at the last millisecond of the range is reported due at 599
(`tick_reports_wrapped_deadline`), so a page that ticks again at the time it is told finds
nothing due, and is told 599 again.

Main statement: `deadline_told_exactly_in_range`.
-/

namespace Novel.Play

open Novel.Story

/-- The time a call begins a fade at, if it is a `begin`. -/
def Call.beganAt : Call → Option Nat
  | .begin _ _ t => some t
  | _ => none

namespace Sequencer

def lastBeganAt (calls : List Call) : Option Nat := (calls.filterMap Call.beganAt).getLast?

theorem lastBeganAt_append_singleton (calls : List Call) (c : Call) :
    lastBeganAt (calls ++ [c]) = c.beganAt.or (lastBeganAt calls) := by
  cases h : c.beganAt <;> simp [lastBeganAt, h, List.filterMap_append]

/-- The state of a fade after calls: hidden when no call began one, and otherwise scheduled
from the time of the last `begin`. -/
def FollowsBegin (fade hold : Nat) : Option Nat → FadeState → Prop
  | some t, st => Scheduled fade hold t st
  | none, st => st = .idle

/-- **A fade is scheduled from its last `begin`.** Over every run of calls from a fresh
sequencer; a `begin` schedules from its time, a poll fires steps that keep the schedule, and a
cancel hides the screen. -/
theorem followsBegin_exec (fade hold : Nat) (calls : List Call) :
    FollowsBegin fade hold (lastBeganAt calls) ((init fade hold).exec calls).state := by
  induction calls using List.reverseRecOn with
  | nil => rfl
  | append_singleton calls c ih =>
    rw [exec_append, exec_cons, exec_nil, lastBeganAt_append_singleton]
    -- the durations stay those of the fresh sequencer
    have hfade : ((init fade hold).exec calls).fade = fade := exec_fade _ _
    have hhold : ((init fade hold).exec calls).hold = hold := exec_hold _ _
    cases c with
    | begin id target t =>
      have h := scheduled_begin ((init fade hold).exec calls) id target t
      rw [hfade, hhold] at h
      exact h
    | poll now =>
      show FollowsBegin fade hold (lastBeganAt calls)
        (((init fade hold).exec calls).pollFrom now ((init fade hold).exec calls).state).1
      cases hb : lastBeganAt calls with
      | none =>
        rw [hb] at ih
        simp only [FollowsBegin] at ih ⊢
        rw [ih, pollFrom_idle]
      | some t =>
        rw [hb] at ih
        have hkeep := pollFrom_keeps ((init fade hold).exec calls) now
          (Scheduled ((init fade hold).exec calls).fade ((init fade hold).exec calls).hold t)
          (fun _ => scheduled_fire _) _ (by rw [hfade, hhold]; exact ih)
        rw [hfade, hhold] at hkeep
        exact hkeep
    | cancel =>
      cases lastBeganAt calls <;> trivial

theorem deadline_le_of_scheduled {fade hold t d : Nat} {st : FadeState}
    (h : Scheduled fade hold t st) (hd : st.deadline = some d) : d ≤ t + 2 * fade + hold := by
  cases st <;> simp_all [Scheduled, FadeState.deadline] <;> omega

/-- Every deadline is at most the time of the last `begin` plus `2 * fade + hold`. -/
theorem deadline_le_lastBeganAt (fade hold : Nat) (calls : List Call) {d : Nat}
    (hd : ((init fade hold).exec calls).deadline = some d) :
    ∃ t, lastBeganAt calls = some t ∧ d ≤ t + 2 * fade + hold := by
  have h := followsBegin_exec fade hold calls
  cases hb : lastBeganAt calls with
  | none =>
    -- no fade began, so none is scheduled
    rw [hb] at h
    simp only [FollowsBegin] at h
    simp [deadline, h, FadeState.deadline] at hd
  | some t =>
    rw [hb] at h
    exact ⟨t, rfl, deadline_le_of_scheduled h hd⟩

end Sequencer

/-- A time is reported as itself exactly when it is below `2^64` ms. -/
theorem reportedMs_eq_self_iff (d : Nat) : reportedMs d = d ↔ d < Nat.pow 2 64 := by
  constructor
  · intro h
    rw [← h]
    exact Nat.mod_lt _ (by decide)
  · exact Nat.mod_eq_of_lt

end Novel.Play

namespace Novel.Web

open Novel.Play Novel.Save

theorem millis_lt (x : Float) : millis x < Nat.pow 2 64 :=
  UInt64.toNat_lt _

namespace WebPlayer

theorem run_eq {α : Type} (w : WebPlayer) (a : Act Store α) :
    w.run a = ((a.run (w.session, [])).run.1, ⟨(a.run (w.session, [])).run.2.1⟩) := rfl

/-- A selection that starts a fade schedules its end at the time plus the fade, and tells the
page that deadline as a 64-bit count. -/
theorem select_fadeStarted {w : WebPlayer} {index : Nat} {nowMs : Float}
    (h : (w.run (Session.select index (millis nowMs))).1 = .fadeStarted) :
    (w.select index nowMs).2.session.fade.deadline = some (millis nowMs + w.session.fade.fade) ∧
      (w.select index nowMs).1 = .ok (.obj [("outcome", .str "fadeStarted"),
        ("deadline_ms", .nat (reportedMs (millis nowMs + w.session.fade.fade)))]) := by
  rw [run_eq] at h
  -- of what a selection can do, only beginning a fade answers that a fade started
  rcases Session.select_cases (w.session, []) index (millis nowMs) with
    ⟨-, hne, -⟩ | ⟨c, target, -, -, -, -, -, hs⟩ | ⟨c, target, -, -, -, -, ⟨u, hu⟩, -⟩
  · exact absurd h hne
  · simp only [select, run_eq, h, hs]
    simp [Sequencer.deadline, Sequencer.begin, FadeState.deadline, deadlineJson, Json.Value.opt]
  · rw [hu] at h
    cases h

theorem tick_deadlineMs (w : WebPlayer) (nowMs : Float) :
    ∃ v, (w.tick nowMs).1 = .ok v ∧
      v.field? "deadlineMs" = some (deadlineJson (w.tick nowMs).2.session.fade.deadline) :=
  ⟨_, rfl, rfl⟩

/-- A tick before the deadline leaves the fade as it was. -/
theorem tick_early {w : WebPlayer} {nowMs : Float} {d : Nat}
    (hd : w.session.fade.deadline = some d) (h : millis nowMs < d) :
    (w.tick nowMs).2.session.fade = w.session.fade := by
  -- nothing is due, so the tick only polls, and the poll fires nothing
  have hdue : w.session.fade.state.dueBy (millis nowMs) = none := by
    cases hs : w.session.fade.state with
    | out p d' =>
      simp only [Sequencer.deadline, hs, FadeState.deadline, Option.some.injEq] at hd
      simp [FadeState.dueBy, hd, Nat.not_le.2 h]
    | _ => rfl
  simp [tick, run_eq, Session.tick_run_quiet (w.session, []) hdue,
    Sequencer.poll_early w.session.fade (millis nowMs) hd h]

end WebPlayer

/-- **A deadline is told exactly while it stays in the 64-bit range.** Over every run of calls
from a fresh sequencer, a deadline is at most the time of the last `begin` plus `2 * fade + hold`,
so no sum of times overflows. The page is told a deadline modulo `2^64`: as itself exactly when
it is below `2^64` ms, and so whenever the last `begin` plus `2 * fade + hold` is. -/
theorem deadline_told_exactly_in_range (fade hold : Nat) (calls : List Call) {d : Nat}
    (hd : ((Sequencer.init fade hold).exec calls).deadline = some d) :
    ∃ t, Sequencer.lastBeganAt calls = some t ∧ d ≤ t + 2 * fade + hold ∧
      (deadlineJson (some d) = .nat d ↔ d < Nat.pow 2 64) ∧
      (t + 2 * fade + hold < Nat.pow 2 64 → deadlineJson (some d) = .nat d) := by
  obtain ⟨t, hlast, hle⟩ := Sequencer.deadline_le_lastBeganAt fade hold calls hd
  have htold : deadlineJson (some d) = .nat d ↔ d < Nat.pow 2 64 := by
    rw [← reportedMs_eq_self_iff, ← Json.Value.nat_inj]
    rfl
  exact ⟨t, hlast, hle, htold, fun hrange => htold.2 (Nat.lt_of_le_of_lt hle hrange)⟩

/-- A fade begun at 100 and polled at 700 is black, due at 750, and the page is told 750. -/
theorem sample_deadline_told_exactly :
    ((Sequencer.init 600 50).exec [.begin "room" { id := "room" } 100, .poll 700]).deadline =
        some 750 ∧
      ∃ t, Sequencer.lastBeganAt [.begin "room" { id := "room" } 100, .poll 700] = some t ∧
        750 ≤ t + 2 * 600 + 50 ∧ (deadlineJson (some 750) = .nat 750 ↔ 750 < Nat.pow 2 64) ∧
        (t + 2 * 600 + 50 < Nat.pow 2 64 → deadlineJson (some 750) = .nat 750) :=
  have hd : ((Sequencer.init 600 50).exec [.begin "room" { id := "room" } 100, .poll 700]).deadline =
      some 750 := by decide +kernel
  ⟨hd, deadline_told_exactly_in_range 600 50 _ hd⟩

/-- A fade begun at the last millisecond of the 64-bit range is due at `2^64 + 599`; a tick at
any time leaves it so and tells the page it is due at 599. -/
theorem tick_reports_wrapped_deadline :
    let w : WebPlayer :=
      ⟨((Session.select 0 (Nat.pow 2 64 - 1) : Act Store Outcome).run
        (Session.sampleSession, [])).run.2.1⟩
    (w.tick 0).2.session.fade.deadline = some (Nat.pow 2 64 + 599) ∧
      ((w.tick 0).1.toOption.bind (·.field? "deadlineMs")) = some (.nat 599) := by
  intro w
  have hd : w.session.fade.deadline = some (Nat.pow 2 64 + 599) := by decide
  have hlate : millis 0 < Nat.pow 2 64 + 599 := Nat.lt_add_right _ (millis_lt 0)
  have hfade := WebPlayer.tick_early hd hlate
  have hreport : deadlineJson (some (Nat.pow 2 64 + 599)) = .nat 599 := rfl
  refine ⟨by rw [hfade, hd], ?_⟩
  obtain ⟨v, hv, hfield⟩ := WebPlayer.tick_deadlineMs w 0
  rw [hfade, hd, hreport] at hfield
  rw [hv]
  exact hfield

end Novel.Web
