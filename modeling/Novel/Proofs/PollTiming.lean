import Novel.Proofs.FadeSteps

/-!
# Polling late or often changes nothing

A host polls the fade sequencer whenever it likes: often, rarely, late. What comes back does not
depend on that. Polling at `a` and then at `b` fires the same steps, and leaves the same state,
as one poll at the later of the two times. So after a `begin` at `t`, whatever the poll times,
the steps returned are those of one cycle, stamped `t + fade`, `t + fade + hold` and
`t + 2 * fade + hold`, each returned by the first poll at or after its stamp.

The argument goes through the *course* of a state: the steps it has still to fire, each with the
time it is due. Each deadline is counted from the one before, never from the time of a poll, so
the course is fixed by the state alone, and its times never decrease.

* A poll at `now` fires the part of the course that is due, and leaves a state whose course is
  the rest (`pollFrom_course`).
* A state is known by its course (`course_injective`).
* In a list sorted by time, what is due by `a` followed by what passes a test among the rest is
  what is due by `a` or passes the test (`filter_split_sorted`). Two polls, or any number, then
  fire what one poll at the latest time fires.
-/

namespace Novel.Play

open Novel.Story

namespace FadeState

/-- The steps a state has still to fire, each with the time it is due, given the lengths of the
fade and of the hold. -/
def course (fade hold : Nat) : FadeState → List Step
  | .idle => []
  | .out p d =>
    [{ before := .fadingOut, after := .black, time := d, commit := some p },
     { before := .black, after := .fadingIn, time := d + hold },
     { before := .fadingIn, after := .hidden, time := d + hold + fade }]
  | .black d =>
    [{ before := .black, after := .fadingIn, time := d },
     { before := .fadingIn, after := .hidden, time := d + fade }]
  | .into d => [{ before := .fadingIn, after := .hidden, time := d }]

variable {fade hold : Nat}

theorem course_injective {st st' : FadeState} (h : st.course fade hold = st'.course fade hold) :
    st = st' := by
  cases st <;> cases st' <;> simp_all [course]

/-- The times of a course never decrease. -/
theorem course_sorted (st : FadeState) :
    (st.course fade hold).Pairwise (fun x y => x.time ≤ y.time) := by
  cases st with
  | idle => simp [course]
  | out p d => simp [course]; omega
  | black d => simp [course]
  | into d => simp [course]

theorem deadline_le_course {st : FadeState} {d : Nat} (hd : st.deadline = some d) :
    ∀ step ∈ st.course fade hold, d ≤ step.time := by
  cases st <;> simp [course, deadline] at hd ⊢ <;> omega

end FadeState

/-- In a list of steps sorted by time, the steps due by `a`, followed by the steps of the rest
that pass `q`, are the steps that are due by `a` or pass `q`. -/
theorem filter_split_sorted {l : List Step} (hl : l.Pairwise (fun x y => x.time ≤ y.time))
    (a : Nat) (q : Step → Bool) :
    l.filter (·.time ≤ a) ++ (l.filter (a < ·.time)).filter q =
      l.filter (fun x => decide (x.time ≤ a) || q x) := by
  induction l with
  | nil => rfl
  | cons x l ih =>
    rw [List.pairwise_cons] at hl
    by_cases hx : x.time ≤ a
    · simp [hx, ← ih hl.2]
    · -- from `x` on, nothing is due by `a`
      have hlate : ∀ y ∈ x :: l, a < y.time := by
        intro y hy
        rcases List.mem_cons.1 hy with rfl | hy
        · omega
        · have := hl.1 y hy
          omega
      have hnone : (x :: l).filter (·.time ≤ a) = [] :=
        List.filter_eq_nil_iff.2 fun y hy => by simpa using hlate y hy
      have hall : (x :: l).filter (a < ·.time) = x :: l :=
        List.filter_eq_self.2 fun y hy => by simpa using hlate y hy
      rw [hnone, hall, List.nil_append]
      apply List.filter_congr
      intro y hy
      simp [Nat.not_le.2 (hlate y hy)]

namespace Sequencer

variable (s : Sequencer)

/-- Firing takes the first step of a state's course and leaves a state whose course is the
rest. -/
theorem course_fire {st next : FadeState} {step : Step} (h : s.fire st = (next, some step)) :
    st.course s.fade s.hold = step :: next.course s.fade s.hold := by
  cases st <;> simp only [fire, Prod.mk.injEq, Option.some.injEq, reduceCtorEq, and_false] at h <;>
    obtain ⟨rfl, rfl⟩ := h <;> simp [FadeState.course]

theorem deadline_fire {st next : FadeState} {step : Step} (h : s.fire st = (next, some step)) :
    st.deadline = some step.time := by
  cases st <;> simp only [fire, Prod.mk.injEq, Option.some.injEq, reduceCtorEq, and_false] at h <;>
    obtain ⟨rfl, rfl⟩ := h <;> rfl

/-- **A poll fires the part of the course that is due and leaves the rest.** -/
theorem pollFrom_course (now : Nat) (st : FadeState) :
    (s.pollFrom now st).2 = (st.course s.fade s.hold).filter (·.time ≤ now) ∧
      (s.pollFrom now st).1.course s.fade s.hold =
        (st.course s.fade s.hold).filter (now < ·.time) := by
  fun_induction s.pollFrom now st with
  | case1 st hd =>
    -- a state without a deadline is idle and has nothing left to fire
    cases st <;> simp_all [FadeState.deadline, FadeState.course]
  | case2 st d hd hle next step hf last steps hpoll ih =>
    rw [hpoll] at ih
    have htime : step.time = d := by
      have := deadline_fire s hf
      rw [hd] at this
      exact (Option.some.inj this).symm
    dsimp only at ih
    rw [course_fire s hf]
    simp [htime, hle, ih]
  | case3 st d hd hle next hf => simp [deadline_of_fire_none s hf] at hd
  | case4 st d hd hlt =>
    -- nothing is due yet: the whole course comes at or after the deadline
    have hlate : ∀ step ∈ st.course s.fade s.hold, now < step.time := fun step h =>
      Nat.lt_of_lt_of_le (Nat.lt_of_not_le hlt) (FadeState.deadline_le_course hd step h)
    constructor
    · exact (List.filter_eq_nil_iff.2 (by simpa using hlate)).symm
    · exact (List.filter_eq_self.2 (by simpa using hlate)).symm

@[simp] theorem poll_fade (now : Nat) : (s.poll now).1.fade = s.fade := rfl

@[simp] theorem poll_hold (now : Nat) : (s.poll now).1.hold = s.hold := rfl

@[simp] theorem begin_fade (id : String) (target : Node) (t : Nat) :
    (s.begin id target t).1.fade = s.fade := rfl

@[simp] theorem begin_hold (id : String) (target : Node) (t : Nat) :
    (s.begin id target t).1.hold = s.hold := rfl

theorem poll_course (now : Nat) :
    (s.poll now).2 = (s.state.course s.fade s.hold).filter (·.time ≤ now) ∧
      (s.poll now).1.state.course s.fade s.hold =
        (s.state.course s.fade s.hold).filter (now < ·.time) :=
  s.pollFrom_course now s.state

/-- Two sequencers with the same durations and the same course are the same. -/
theorem eq_of_course {s' : Sequencer} (hfade : s'.fade = s.fade) (hhold : s'.hold = s.hold)
    (h : s'.state.course s.fade s.hold = s.state.course s.fade s.hold) : s' = s := by
  have hstate := FadeState.course_injective h
  cases s
  cases s'
  simp_all

/-- **Polling at `a` and then at `b` fires the steps, and leaves the state, of one poll at the
later of the two times.** -/
theorem poll_poll (a b : Nat) :
    (((s.poll a).1.poll b).1, (s.poll a).2 ++ ((s.poll a).1.poll b).2) = s.poll (max a b) := by
  obtain ⟨hsteps₁, hcourse₁⟩ := s.poll_course a
  obtain ⟨hsteps₂, hcourse₂⟩ := (s.poll a).1.poll_course b
  obtain ⟨hsteps, hcourse⟩ := s.poll_course (max a b)
  simp only [poll_fade, poll_hold] at hsteps₂ hcourse₂
  have hsorted : (s.state.course s.fade s.hold).Pairwise (fun x y => x.time ≤ y.time) :=
    FadeState.course_sorted s.state
  refine Prod.ext ?_ ?_
  · -- the states agree because their courses do: what is due after both times is left
    refine eq_of_course _ rfl rfl ?_
    simp only [poll_fade, poll_hold]
    rw [hcourse₂, hcourse₁, hcourse, List.filter_filter]
    apply List.filter_congr
    intro x _
    rw [Bool.eq_iff_iff]
    simp only [Bool.and_eq_true, decide_eq_true_eq]
    omega
  · -- the steps agree: what was due by `a`, then what came due by `b`
    show (s.poll a).2 ++ ((s.poll a).1.poll b).2 = (s.poll (max a b)).2
    rw [hsteps₁, hsteps₂, hcourse₁, hsteps, filter_split_sorted hsorted]
    apply List.filter_congr
    intro x _
    rw [Bool.eq_iff_iff]
    simp only [Bool.or_eq_true, decide_eq_true_eq]
    omega

/-- Polling at each of the times in turn: the sequencer at the end, and every step fired, in
order. -/
def pollEach (s : Sequencer) : List Nat → Sequencer × List Step
  | [] => (s, [])
  | now :: times =>
    let polled := s.poll now
    let rest := polled.1.pollEach times
    (rest.1, polled.2 ++ rest.2)

/-- Polls at any times fire the steps of the course that some poll came at or after. -/
theorem pollEach_steps (times : List Nat) :
    (s.pollEach times).2 =
      (s.state.course s.fade s.hold).filter (fun x => times.any (x.time ≤ ·)) := by
  induction times generalizing s with
  | nil => simp [pollEach]
  | cons now times ih =>
    obtain ⟨hsteps, hcourse⟩ := s.poll_course now
    have hrest := ih (s.poll now).1
    simp only [poll_fade, poll_hold] at hrest
    simp only [pollEach, hsteps, hrest, hcourse,
      filter_split_sorted (FadeState.course_sorted s.state), List.any_cons]

/-- **Polling is insensitive to how often and how late the host polls.** From any sequencer,
a poll at `a` followed by a poll at `b` returns, together, the steps that one poll at the later
time returns, and leaves the same sequencer; in particular, for `a ≤ b`, exactly what a poll at
`b` alone would. So after a `begin` at `t`, polls at any times return the three steps of the
fade, stamped `t + fade` (with the commit), `t + fade + hold` and `t + 2 * fade + hold`: each
once some poll comes at or after its stamp, in order, and nothing else. -/
theorem polling_insensitive_to_timing :
    (∀ (s : Sequencer) (a b : Nat),
      (((s.poll a).1.poll b).1, (s.poll a).2 ++ ((s.poll a).1.poll b).2) = s.poll (max a b)) ∧
    (∀ (s : Sequencer) (id : String) (target : Node) (t : Nat) (times : List Nat),
      ((s.begin id target t).1.pollEach times).2 =
        [{ before := .fadingOut, after := .black, time := t + s.fade,
           commit := some ⟨id, target⟩ },
         { before := .black, after := .fadingIn, time := t + s.fade + s.hold },
         { before := .fadingIn, after := .hidden, time := t + 2 * s.fade + s.hold }].filter
          (fun step => times.any (step.time ≤ ·))) := by
  refine ⟨poll_poll, fun s id target t times => ?_⟩
  -- a fade begun at `t` has the cycle as its course
  have htime : t + s.fade + s.hold + s.fade = t + 2 * s.fade + s.hold := by omega
  rw [pollEach_steps, begin_fade, begin_hold, begin_state]
  congr 1
  simp only [FadeState.course, htime]

/-- The late poll of the sequencer's own test: begun at 100 ms with a 600 ms fade and a 50 ms
hold, one poll at 10 s returns all three steps at 700, 750 and 1350 ms. -/
example : ((((Sequencer.init 600 50).begin "B" default 100).1.poll 10000).2.map Step.time) =
    [700, 750, 1350] := by
  decide +kernel

end Sequencer

end Novel.Play
