import Novel.Proofs.Consistency

/-!
# The order of a fade

A selection whose target fades does not move the player: it starts fading out towards the
target, due at the selection's time plus the fade's duration. What happens next is fixed,
whatever the host does and whenever it ticks:

* until the fade settles nothing changes the book, the progress or the fade, and every tick
  comes before the deadline;
* it settles either at the first tick at or past the deadline, which moves the player to the
  target exactly once, in the step from fading out to black, or at an operation that cancels
  it (starting, restarting, loading a book, a successful continue or import), which shows the
  screen;
* after it settles nothing is pending, and only a new selection that starts a fade makes
  something pending again.

This rests on the input gating: while a fade runs, selecting is ignored, and only the
cancelling operations and the commit of a tick change the progress. The run statement is
proved the usual way: what one operation does to a fading-out session (`waiting_step`), then by
induction over the operations (`waiting_run`).
-/

namespace Novel.Play.Session

open Novel.Story Novel.Save

variable {σ : Type}

theorem fade_state_of_course {s : Session σ} {c : Course} (h : s.course = c) :
    s.fade.state = c.fade.state := by
  rw [← h]
  rfl

variable [Slots σ]

/-! ## Cancelling operations -/

/-- The operations that drop a fade and put the player somewhere new, as they act on `s`:
starting, restarting and loading a book always do; continuing from the slot or importing a save
do when they succeed. -/
def Op.Cancels (o : Op) (s : Session σ) : Prop :=
  match o with
  | .start | .restart | .loadBook _ => True
  | .continueSaved => ∃ u, ((Session.continueSaved : Act σ _).run (s, [])).run.1 = .ok (some u)
  | .importSave json => ∃ u, ((Session.importSave json : Act σ _).run (s, [])).run.1 = .ok u
  | _ => False

/-- **A cancelling operation leaves no fade running.** -/
theorem cancels_idle {s : Session σ} {o : Op} (h : o.Cancels s) : (o.run s).fade.state = .idle := by
  cases o with
  | start => exact fade_state_of_course (course_start (s, []))
  | restart => exact fade_state_of_course (course_restart (s, []))
  | loadBook b => exact fade_state_of_course (course_loadBook (s, []) b)
  | continueSaved =>
    obtain ⟨u, hu⟩ := h
    rcases continueSaved_cases (s, []) with ⟨-, hnot⟩ | ⟨r, u', -, -, -, hcourse⟩
    · exact absurd hu (hnot u)
    · exact fade_state_of_course hcourse
  | importSave json =>
    obtain ⟨u, hu⟩ := h
    rcases importSave_cases (s, []) json with ⟨-, hnot⟩ | ⟨r, u', -, -, -, hcourse⟩
    · exact absurd hu (hnot u)
    · exact fade_state_of_course hcourse
  | _ => exact h.elim

/-- An operation that neither cancels, ticks nor selects leaves the course as it is: a failed
continue or import changes nothing, saving only writes the store, and asking for the prompt
only reports. -/
theorem course_run_of_quiet {s : Session σ} {o : Op} (hc : ¬ o.Cancels s)
    (ht : ∀ now, o ≠ .tick now) (hs : ∀ i now, o ≠ .select i now) :
    (o.run s).course = s.course := by
  cases o with
  | start => exact absurd trivial hc
  | restart => exact absurd trivial hc
  | loadBook b => exact absurd trivial hc
  | tick now => exact absurd rfl (ht now)
  | select i now => exact absurd rfl (hs i now)
  | continueSaved =>
    rcases continueSaved_cases (s, []) with ⟨hsame, -⟩ | ⟨r, u, -, -, hu, -⟩
    · rw [Op.run, hsame]
    · exact absurd ⟨u, hu⟩ hc
  | importSave json =>
    rcases importSave_cases (s, []) json with ⟨hcourse, -⟩ | ⟨r, u, -, -, hu, -⟩
    · exact hcourse
    · exact absurd ⟨u, hu⟩ hc
  | save => exact course_save (s, [])
  | deleteSave => exact course_deleteSave (s, [])
  | prompt => rw [Op.run, (prompt_run (s, [])).2]
  | visibleChoices => rw [Op.run, (visibleChoices_run (s, [])).2]

/-- While a fade runs, an operation that neither cancels nor ticks leaves the course as it is;
a selection among them is ignored. -/
theorem course_run_of_busy {s : Session σ} {o : Op} (hidle : s.fade.idle = false)
    (hc : ¬ o.Cancels s) (ht : ∀ now, o ≠ .tick now) : (o.run s).course = s.course := by
  cases o with
  | select i now => rw [Op.run, select_busy (s, []) i now hidle]
  | _ => exact course_run_of_quiet hc ht (fun _ _ h => by cases h)

/-! ## The commit -/

/-- The tick at `now` on `s` commits the pending target `p`, due at `d`: the poll's first step
is the one from fading out to black at `d` and carries `p`, no other step commits, and the
player moves to `p`. -/
def CommitsAt (p : Pending) (d : Nat) (s : Session σ) (now : Nat) : Prop :=
  s.fade.state = .out p d ∧ d ≤ now ∧
    (s.fade.poll now).2.head? = some ⟨.fadingOut, .black, d, some p⟩ ∧
    (s.fade.poll now).2.filterMap Step.commit = [p] ∧
    ((Op.tick now).run s).progress = s.progress.moveTo p.targetId p.target

/-- A tick at or past the deadline of a fading-out session commits its target. -/
theorem commitsAt_of_le {s : Session σ} {p : Pending} {d now : Nat}
    (hs : s.fade.state = .out p d) (h : d ≤ now) : CommitsAt p d s now := by
  have hdue : s.fade.state.dueBy now = some p := by simp [hs, FadeState.dueBy, h]
  refine ⟨hs, h, ?_, ?_, ?_⟩
  · rw [Sequencer.poll_steps, hs]
    exact Sequencer.pollFrom_out_head _ _ h
  · rw [Sequencer.commits_poll, hdue]
    rfl
  · exact congrArg Course.progress (course_tick_of_due (s, []) hdue)

/-- After the commit the fade is past fading out, so nothing is pending. -/
theorem commitsAt_pending {s : Session σ} {p : Pending} {d now : Nat}
    (h : CommitsAt p d s now) : ((Op.tick now).run s).fade.pending = none := by
  obtain ⟨hs, hd, -⟩ := h
  have hdue : s.fade.state.dueBy now = some p := by simp [hs, FadeState.dueBy, hd]
  have hphase : ((Op.tick now).run s).fade.state.phase ≠ .fadingOut := by
    rw [Op.run, fade_state_of_course (course_tick_of_due (s, []) hdue), Sequencer.poll_state, hs]
    exact Sequencer.pollFrom_out_phase _ _ hd
  apply Option.not_isSome_iff_eq_none.1
  intro hsome
  exact hphase ((FadeState.pending_isSome_iff _).1 hsome)

/-! ## Gating: what runs while a fade runs -/

/-- While a fade runs, a selection is ignored and changes nothing. -/
theorem select_ignored_of_busy {s : Session σ} (h : s.fade.phase ≠ .hidden) (i now : Nat) :
    ((select i now : Act σ Outcome).run (s, [])).run.1 = .ignored ∧
      (Op.select i now).run s = s := by
  have hidle : s.fade.idle = false := (Sequencer.idle_eq_false_iff _).2 h
  rw [Op.run, select_busy (s, []) i now hidle]
  exact ⟨rfl, rfl⟩

/-- **While a fade runs, only a cancelling operation or the commit moves the player.** -/
theorem progress_of_busy {s : Session σ} {o : Op} (h : s.fade.phase ≠ .hidden)
    (hc : ¬ o.Cancels s) :
    (o.run s).progress = s.progress ∨ ∃ now p d, o = .tick now ∧ CommitsAt p d s now := by
  have hidle : s.fade.idle = false := (Sequencer.idle_eq_false_iff _).2 h
  cases o with
  | tick now =>
    cases hdue : s.fade.state.dueBy now with
    | none => exact .inl (congrArg Course.progress (course_tick_of_not_due (s, []) hdue))
    | some p =>
      obtain ⟨d, hs, hd⟩ := FadeState.dueBy_eq_some hdue
      exact .inr ⟨now, p, d, rfl, commitsAt_of_le hs hd⟩
  | _ => exact .inl (congrArg Course.progress (course_run_of_busy hidle hc (fun _ h => by cases h)))

/-- **Only a selection that starts a fade makes a target pending.** -/
theorem pending_of_run {s : Session σ} {o : Op} {q : Pending} (h : s.fade.pending = none)
    (hq : (o.run s).fade.pending = some q) :
    ∃ i now, o = .select i now ∧
      ((select i now : Act σ Outcome).run (s, [])).run.1 = .fadeStarted := by
  -- an operation that keeps the fade, or drops it, leaves nothing pending
  have hkeep : ∀ {s' : Session σ}, s'.course.fade = s.course.fade → s'.fade.pending ≠ some q := by
    intro s' hs' hs'q
    have hsame : s'.fade.pending = s.fade.pending := congrArg Sequencer.pending hs'
    rw [hsame, h] at hs'q
    cases hs'q
  have hidle : ∀ {s' : Session σ}, s'.fade.state = .idle → s'.fade.pending ≠ some q := by
    intro s' hs' hs'q
    simp [Sequencer.pending, hs', FadeState.pending] at hs'q
  by_cases hc : o.Cancels s
  · exact absurd hq (hidle (cancels_idle hc))
  cases o with
  | select i now =>
    rcases select_cases (s, []) i now with ⟨hsame, -⟩ | ⟨c, target, -, -, -, -, hres, -⟩ |
      ⟨c, target, -, -, -, -, -, hcourse⟩
    · exact absurd hq (hkeep (congrArg (fun s' : Session σ => s'.course.fade) hsame))
    · exact ⟨i, now, rfl, hres⟩
    · have hfade := congrArg Course.fade hcourse
      exact absurd hq (hkeep hfade)
  | tick now =>
    -- the poll leaves a pending target only where one was
    obtain ⟨e, he⟩ := FadeState.pending_eq_some hq
    have hpoll : (s.fade.pollFrom now s.fade.state).1 = .out q e :=
      (fade_state_of_course (course_tick (s, []) now)).symm.trans he
    obtain ⟨hs, -⟩ := Sequencer.pollFrom_eq_out _ _ hpoll
    simp [Sequencer.pending, hs, FadeState.pending] at h
  | _ =>
    have hfade := congrArg Course.fade
      (course_run_of_quiet hc (fun _ h => by cases h) (fun _ _ h => by cases h))
    exact absurd hq (hkeep hfade)

/-! ## A fade from start to end -/

/-- How a fade towards `p`, due at `d`, ends at the operation `o` on `s`: a tick at or past `d`
commits `p`, or `o` cancels and drops the fade. -/
def Settles (p : Pending) (d : Nat) (s : Session σ) (o : Op) : Prop :=
  (∃ now, o = .tick now ∧ CommitsAt p d s now) ∨ (o.Cancels s ∧ (o.run s).fade.state = .idle)

theorem settles_pending {s : Session σ} {p : Pending} {d : Nat} {o : Op} (h : Settles p d s o) :
    (o.run s).fade.pending = none := by
  rcases h with ⟨now, rfl, hcommit⟩ | ⟨-, hidle⟩
  · exact commitsAt_pending hcommit
  · simp [Sequencer.pending, hidle, FadeState.pending]

/-- What follows a fade towards `p`, due at `d`, from `s` along the operations `os`. Either the
course stays as it is after every prefix of `os` and every tick comes before `d`; or a first
operation `o` settles the fade: the course stays as it is after every prefix before `o`, every
tick before `o` comes before `d`, and after `o` nothing is pending. -/
def FadeFollows (p : Pending) (d : Nat) (s : Session σ) (os : List Op) : Prop :=
  ((∀ pre, pre <+: os → (exec pre s).course = s.course) ∧ ∀ now, Op.tick now ∈ os → now < d) ∨
    ∃ pre o post, os = pre ++ o :: post ∧
      (∀ pre', pre' <+: pre → (exec pre' s).course = s.course) ∧
      (∀ now, Op.tick now ∈ pre → now < d) ∧
      Settles p d (exec pre s) o ∧ (o.run (exec pre s)).fade.pending = none

/-- **One operation on a fading-out session** leaves the course as it is, and is no tick at or
past the deadline; or it settles the fade. -/
theorem waiting_step {s : Session σ} {p : Pending} {d : Nat} (hs : s.fade.state = .out p d)
    (o : Op) : ((o.run s).course = s.course ∧ ∀ now, o = .tick now → now < d) ∨ Settles p d s o := by
  by_cases hc : o.Cancels s
  · exact .inr (.inr ⟨hc, cancels_idle hc⟩)
  have hidle : s.fade.idle = false := by simp [Sequencer.idle, Sequencer.phase, hs, FadeState.phase]
  cases o with
  | tick now =>
    by_cases hd : d ≤ now
    · exact .inr (.inl ⟨now, rfl, commitsAt_of_le hs hd⟩)
    · -- before the deadline the poll changes nothing
      have hlt : now < d := Nat.lt_of_not_le hd
      have hdue : s.fade.state.dueBy now = none := by simp [hs, FadeState.dueBy, hd]
      have hpoll : s.fade.poll now = (s.fade, []) :=
        Sequencer.poll_early _ _ (by rw [hs]; rfl) hlt
      refine .inl ⟨?_, fun now' h => ?_⟩
      · rw [Op.run, course_tick_of_not_due (s, []) hdue, hpoll]
        rfl
      · cases h
        exact hlt
  | _ => exact .inl ⟨course_run_of_busy hidle hc (fun _ h => by cases h), fun _ h => by cases h⟩

/-- **A fade runs undisturbed until it settles.** From a fading-out session, along any
operations, the course stays as it is and every tick comes before the deadline, up to the
first operation that settles the fade. -/
theorem waiting_run {s : Session σ} {p : Pending} {d : Nat} (hs : s.fade.state = .out p d)
    (os : List Op) : FadeFollows p d s os := by
  induction os generalizing s with
  | nil =>
    refine .inl ⟨fun pre h => ?_, fun now h => by cases h⟩
    rw [List.prefix_nil.1 h]
    rfl
  | cons o os ih =>
    rcases waiting_step hs o with ⟨hkeep, htick⟩ | hsettle
    · -- `o` changes nothing, so the rest of the run starts from the same course
      have hs' : (o.run s).fade.state = .out p d := (fade_state_of_course hkeep).trans hs
      have hpre : ∀ l, (∀ l', l' <+: l → (exec l' (o.run s)).course = (o.run s).course) →
          ∀ l', l' <+: o :: l → (exec l' s).course = s.course := by
        intro l hl l' h
        rcases List.prefix_cons_iff.1 h with rfl | ⟨t, rfl, ht⟩
        · rfl
        · exact (hl t ht).trans hkeep
      have hticks : ∀ l : List Op, (∀ now, Op.tick now ∈ l → now < d) →
          ∀ now, Op.tick now ∈ o :: l → now < d := by
        intro l hl now h
        rcases List.mem_cons.1 h with h | h
        · exact htick now h.symm
        · exact hl now h
      rcases ih hs' with ⟨hall, htl⟩ | ⟨pre, o', post, rfl, hkept, htl, hset, hnone⟩
      · exact .inl ⟨hpre os hall, hticks os htl⟩
      · exact .inr ⟨o :: pre, o', post, rfl, hpre pre hkept, hticks pre htl, hset, hnone⟩
    · refine .inr ⟨[], o, os, rfl, fun pre h => ?_, (fun now h => by cases h), hsettle,
        settles_pending hsettle⟩
      rw [List.prefix_nil.1 h]
      rfl

/-- **Fade synchronisation.** A selection at `t` that starts a fade aims it at the target `T` of
the chosen entry of the prompt, due at `t` plus the fade's duration, and moves no one. Along
any operations after it the fade runs undisturbed until the first tick at or past the deadline,
which moves the player to `T` once in the step from fading out to black, or until an operation
cancels it first; then nothing is pending. Cancelling leaves the screen shown. While a fade runs
a selection is ignored, and only the cancelling operations and the commit move the player; only
a selection that starts a fade makes a target pending. -/
theorem fade_synchronization :
    (∀ (s : Session σ) (i t : Nat),
      ((select i t : Act σ Outcome).run (s, [])).run.1 = .fadeStarted →
      ∃ c T, s.choiceAt i = some c ∧ s.book.node? c.target = some T ∧
        ((Op.select i t).run s).progress = s.progress ∧
        ((Op.select i t).run s).fade.state = .out ⟨c.target, T⟩ (t + s.fade.fade) ∧
        ∀ os, FadeFollows ⟨c.target, T⟩ (t + s.fade.fade) ((Op.select i t).run s) os) ∧
    (∀ (s : Session σ) (o : Op), o.Cancels s → (o.run s).fade.phase = .hidden) ∧
    (∀ (s : Session σ) (i now : Nat), s.fade.phase ≠ .hidden →
      ((select i now : Act σ Outcome).run (s, [])).run.1 = .ignored ∧
        (Op.select i now).run s = s) ∧
    (∀ (s : Session σ) (o : Op), s.fade.phase ≠ .hidden → ¬ o.Cancels s →
      (o.run s).progress = s.progress ∨ ∃ now p d, o = .tick now ∧ CommitsAt p d s now) ∧
    (∀ (s : Session σ) (o : Op) (q : Pending), s.fade.pending = none →
      (o.run s).fade.pending = some q →
      ∃ i now, o = .select i now ∧
        ((select i now : Act σ Outcome).run (s, [])).run.1 = .fadeStarted) := by
  refine ⟨fun s i t hsel => ?_, fun s o hc => ?_, fun s i now h => select_ignored_of_busy h i now,
    fun s o h hc => progress_of_busy h hc, fun s o q h hq => pending_of_run h hq⟩
  · rcases select_cases (s, []) i t with ⟨-, hne, -⟩ | ⟨c, T, -, hch, hT, -, -, hsession⟩ |
      ⟨c, T, -, -, -, -, ⟨u, hu⟩, -⟩
    · exact absurd hsel hne
    · have hstate : ((Op.select i t).run s).fade.state = .out ⟨c.target, T⟩ (t + s.fade.fade) := by
        rw [Op.run, hsession]
        rfl
      refine ⟨c, T, hch, hT, by rw [Op.run, hsession], hstate, fun os => waiting_run hstate os⟩
    · rw [hu] at hsel
      cases hsel
  · simp [Sequencer.phase, cancels_idle hc, FadeState.phase]

/-- In the sample, choosing the door's one entry at time 0 starts the fade into the room, due
at 600, and what follows it is described by `FadeFollows`. -/
theorem sample_fade_follows :
    ((select 0 0 : Act Store Outcome).run (sampleSession, [])).run.1 = .fadeStarted ∧
      ∃ c T, sampleSession.choiceAt 0 = some c ∧
        ∀ os, FadeFollows ⟨c.target, T⟩ 600 ((Op.select 0 0).run sampleSession) os := by
  have hsel : ((select 0 0 : Act Store Outcome).run (sampleSession, [])).run.1 = .fadeStarted :=
    rfl
  obtain ⟨c, T, hc, -, -, -, hrun⟩ := fade_synchronization.1 sampleSession 0 0 hsel
  exact ⟨hsel, c, T, hc, hrun⟩

end Novel.Play.Session
