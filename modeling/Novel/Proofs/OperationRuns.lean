import Novel.Proofs.SaveSlot

/-!
# Whole runs of the operations

The lemmas of `SessionSteps` say what each operation does to the course of play. Two later
questions need more: what an operation hands back to the host and what it reports, in order,
besides the session it leaves. This module gives, for every operation, its whole run (result,
session and events) in terms of the runs of its parts:

* entering the current node, dropping the fade and saving on arrival, each in closed form;
* re-entering after a reset, starting, loading a book, arriving and resuming, each as the run of
  the part it ends with, started from the session and events its first steps leave;
* selecting, ticking, continuing and importing, case by case.

Ticking reports each step of the fade as it fires (`stepReports`); a step that commits a target
arrives there before the later steps are reported.
-/

namespace Novel.Play.Session

open Novel.Story Novel.Save

variable {σ : Type}

/-! ## Entering, cancelling, re-entering, starting -/

section

variable (x : Session σ × List Event)

theorem enterCurrent_none (h : x.1.currentNode = none) :
    ((enterCurrent : Act σ Update).run x).run = ({}, x.1, x.2) := by
  simp [enterCurrent, current, h]

/-- Entering a node that exists applies it to the stage and reports it with the new scene. -/
theorem enterCurrent_some {n : Node} (h : x.1.currentNode = some n) :
    ((enterCurrent : Act σ Update).run x).run =
      ((x.1.stage.enter n x.1.config.assetBase).2,
        { x.1 with stage := (x.1.stage.enter n x.1.config.assetBase).1 },
        x.2 ++ [.nodeEntered n.id (x.1.stage.enter n x.1.config.assetBase).1.scene]) := by
  simp [enterCurrent, current, update, emit, h]

/-- The reports of dropping the fade: one when a fade was running. -/
def cancelReports (f : Sequencer) : List Event := if f.cancel.2 then [.transitionCancelled] else []

theorem cancelFade_run :
    ((cancelFade : Act σ Unit).run x).run =
      ((), { x.1 with fade := x.1.fade.cancel.1 }, x.2 ++ cancelReports x.1.fade) := by
  cases h : x.1.fade.cancel.2 <;> simp [cancelFade, current, update, emit, h, cancelReports]

/-- Re-entering empties the stage and enters the current node; the host gets the two updates
joined. -/
theorem reenter_run :
    ((reenter : Act σ Update).run x).run =
      (x.1.stage.reset.2.andThen
          ((enterCurrent : Act σ Update).run ({ x.1 with stage := x.1.stage.reset.1 }, x.2)).run.1,
        ((enterCurrent : Act σ Update).run
          ({ x.1 with stage := x.1.stage.reset.1 }, x.2)).run.2) := by
  simp [reenter, current, update]

/-- Starting drops the fade, puts the player at the start node and re-enters. -/
theorem start_run :
    ((start : Act σ Update).run x).run =
      ((reenter : Act σ Update).run
        ({ x.1 with fade := x.1.fade.cancel.1, progress := Progress.start x.1.book.start },
          x.2 ++ cancelReports x.1.fade)).run := by
  simp only [start, StateT.run_bind, Id.run_bind, cancelFade_run, update, StateT.run_modify,
    Id.run_pure]

/-- Loading a book drops the fade, replaces the book and starts it; the second drop finds no
fade running and reports nothing. -/
theorem loadBook_run (b : Book) :
    ((loadBook b : Act σ Update).run x).run =
      ((reenter : Act σ Update).run
        ({ x.1 with book := b, fade := x.1.fade.cancel.1, progress := Progress.start b.start },
          x.2 ++ cancelReports x.1.fade)).run := by
  simp only [loadBook, StateT.run_bind, Id.run_bind, cancelFade_run, update, StateT.run_modify,
    Id.run_pure]
  rw [start_run]
  simp [cancelReports, Sequencer.cancel]

end

/-- The run of re-entering at a restored progress, once the fade is dropped. -/
def resumed (x : Session σ × List Event) (p : Progress) : Update × Session σ × List Event :=
  ((reenter : Act σ Update).run
    ({ x.1 with fade := x.1.fade.cancel.1, progress := p }, x.2 ++ cancelReports x.1.fade)).run

section

variable (x : Session σ × List Event)

/-- Resuming a progress whose node exists drops the fade, restores the progress and
re-enters. -/
theorem resume_run_ok {p : Progress} (h : x.1.ensureNode p.current = .ok ()) :
    ((resume p : Act σ (Except PlayerProblem Update)).run x).run =
      (.ok (resumed x p).1, (resumed x p).2) := by
  simp [resume, current, h, cancelFade_run, update, resumed]

end

/-! ## The prompt -/

/-- What asking for the prompt reports: the choices hidden at the current node. -/
def hiddenReports (s : Session σ) : List Event :=
  match s.currentNode with
  | none => []
  | some n => (Play.visibleChoices s.book.graph s.progress.flags n.choices).2

theorem emitAll_run (events : List Event) (x : Session σ × List Event) :
    ((events.foldlM (fun _ e => emit e) () : Act σ Unit).run x).run = ((), x.1, x.2 ++ events) := by
  induction events generalizing x with
  | nil => simp
  | cons e events ih => simp [List.foldlM_cons, ih]

theorem prompt_run' (x : Session σ × List Event) :
    ((prompt : Act σ Prompt).run x).run =
      (Prompt.classify x.1.offered x.1.config.unlabeled, x.1, x.2 ++ hiddenReports x.1) := by
  cases h : x.1.currentNode <;>
    simp [prompt, visibleChoices, current, offered, hiddenReports, h, emitAll_run]

/-! ## Arriving -/

variable [Slots σ]

/-- What saving on arrival reports: the node saved at, or why the store refused. -/
def autosaveReport (s : Session σ) : Event :=
  match (Slots.save s.store s.snapshot).2 with
  | .ok () => .autosaved s.snapshot.currentNodeId
  | .error p => .autosaveFailed p.message

section

variable (x : Session σ × List Event)

theorem autosave_run' :
    ((autosave : Act σ Unit).run x).run =
      ((), { x.1 with store := (Slots.save x.1.store x.1.snapshot).1 },
        x.2 ++ [autosaveReport x.1]) := by
  cases h : (Slots.save x.1.store x.1.snapshot).2 <;>
    simp [autosave, current, update, emit, h, autosaveReport]

/-- Arriving moves the progress and enters the target; at a fade or checkpoint node it then
saves, which changes the store and reports, and nothing else. -/
theorem arrive_run (id : String) (target : Node) :
    ((arrive id target : Act σ Update).run x).run =
      let y := ((enterCurrent : Act σ Update).run
        ({ x.1 with progress := x.1.progress.moveTo id target }, x.2)).run
      if target.transition.autosaves then
        (y.1, { y.2.1 with store := (Slots.save y.2.1.store y.2.1.snapshot).1 },
          y.2.2 ++ [autosaveReport y.2.1])
      else y := by
  cases ha : target.transition.autosaves <;>
    simp [arrive, update, ha, autosave_run']

end

/-! ## Selecting -/

section Select

variable (x : Session σ × List Event) (i now : Nat)

theorem select_run_noChoice (h : x.1.fade.idle = true) (hc : x.1.choiceAt i = none) :
    ((select i now : Act σ Outcome).run x).run =
      (.noSuchChoice, x.1, x.2 ++ hiddenReports x.1) := by
  simp only [choiceAt] at hc
  simp [select, current, h, prompt_run', hc]

theorem select_run_dangling {c : Choice} (h : x.1.fade.idle = true) (hc : x.1.choiceAt i = some c)
    (ht : x.1.book.node? c.target = none) :
    ((select i now : Act σ Outcome).run x).run =
      (.danglingTarget, x.1, x.2 ++ hiddenReports x.1 ++ [.danglingTarget c.target]) := by
  simp only [choiceAt] at hc
  simp [select, current, h, prompt_run', hc, ht]

/-- Selecting a fade target reports the step into fading out. -/
theorem select_run_fade {c : Choice} {target : Node} (h : x.1.fade.idle = true)
    (hc : x.1.choiceAt i = some c) (ht : x.1.book.node? c.target = some target)
    (hf : target.transition = .fade) :
    ((select i now : Act σ Outcome).run x).run =
      (.fadeStarted, { x.1 with fade := (x.1.fade.begin c.target target now).1 },
        x.2 ++ hiddenReports x.1 ++
          [.phaseChanged (x.1.fade.begin c.target target now).2.before
            (x.1.fade.begin c.target target now).2.after]) := by
  simp only [choiceAt] at hc
  simp [select, current, update, h, prompt_run', hc, ht, hf]

/-- Selecting a cut or checkpoint target arrives there once the prompt has reported. -/
theorem select_run_move {c : Choice} {target : Node} (h : x.1.fade.idle = true)
    (hc : x.1.choiceAt i = some c) (ht : x.1.book.node? c.target = some target)
    (hf : target.transition ≠ .fade) :
    ((select i now : Act σ Outcome).run x).run =
      (.navigated
          ((arrive c.target target : Act σ Update).run (x.1, x.2 ++ hiddenReports x.1)).run.1,
        ((arrive c.target target : Act σ Update).run (x.1, x.2 ++ hiddenReports x.1)).run.2) := by
  simp only [choiceAt] at hc
  cases htr : target.transition with
  | fade => exact absurd htr hf
  | cut => simp [select, current, h, prompt_run', hc, ht, htr]
  | checkpoint => simp [select, current, h, prompt_run', hc, ht, htr]

end Select

/-! ## Ticking -/

/-- What the steps of a fade report: each step, from its phase to the next. -/
def stepReports (steps : List Step) : List Event :=
  steps.map fun st => .phaseChanged st.before st.after

theorem stepReports_append (steps steps' : List Step) :
    stepReports (steps ++ steps') = stepReports steps ++ stepReports steps' := List.map_append

/-- Steps that commit nothing only report themselves. -/
theorem foldlM_fireStep_run {steps : List Step} (h : steps.filterMap Step.commit = [])
    (entered : Option Update) (x : Session σ × List Event) :
    ((steps.foldlM fireStep entered : Act σ (Option Update)).run x).run =
      (entered, x.1, x.2 ++ stepReports steps) := by
  induction steps generalizing x with
  | nil => simp [stepReports]
  | cons step steps ih =>
    rw [List.filterMap_eq_nil_iff] at h
    have hstep : step.commit = none := h step List.mem_cons_self
    have hrest := ih (List.filterMap_eq_nil_iff.2 fun a ha => h a (List.mem_cons_of_mem _ ha))
    simp [List.foldlM_cons, fireStep_quiet x entered hstep, hrest, stepReports]

/-- A tick with nothing due advances the fade and reports its steps. -/
theorem tick_run_quiet (x : Session σ × List Event) {now : Nat}
    (h : x.1.fade.state.dueBy now = none) :
    ((tick now : Act σ (Option Update)).run x).run =
      (none, { x.1 with fade := (x.1.fade.poll now).1 },
        x.2 ++ stepReports (x.1.fade.poll now).2) := by
  have hcommits := Sequencer.commits_poll x.1.fade now
  rw [h] at hcommits
  simp [tick, current, update, foldlM_fireStep_run hcommits]

/-- A step that commits a target reports itself and arrives there. -/
theorem fireStep_commit_run (x : Session σ × List Event) (entered : Option Update) {step : Step}
    {p : Pending} (h : step.commit = some p) :
    ((fireStep entered step : Act σ (Option Update)).run x).run =
      (some ((arrive p.targetId p.target : Act σ Update).run
          (x.1, x.2 ++ stepReports [step])).run.1,
        ((arrive p.targetId p.target : Act σ Update).run
          (x.1, x.2 ++ stepReports [step])).run.2) := by
  simp [fireStep, h, stepReports]

/-- Firing steps of which one commits: the steps before it report, it arrives, the steps after
it report. -/
theorem foldlM_fireStep_commit {pre post : List Step} {step : Step} {p : Pending}
    (hpre : pre.filterMap Step.commit = []) (hstep : step.commit = some p)
    (hpost : post.filterMap Step.commit = []) (x : Session σ × List Event) :
    (((pre ++ step :: post).foldlM fireStep none : Act σ (Option Update)).run x).run =
      (some ((arrive p.targetId p.target : Act σ Update).run
          (x.1, x.2 ++ stepReports (pre ++ [step]))).run.1,
        ((arrive p.targetId p.target : Act σ Update).run
          (x.1, x.2 ++ stepReports (pre ++ [step]))).run.2.1,
        ((arrive p.targetId p.target : Act σ Update).run
          (x.1, x.2 ++ stepReports (pre ++ [step]))).run.2.2 ++ stepReports post) := by
  rw [List.foldlM_append, StateT.run_bind, Id.run_bind, foldlM_fireStep_run hpre]
  dsimp only
  rw [List.foldlM_cons, StateT.run_bind, Id.run_bind, fireStep_commit_run _ _ hstep]
  dsimp only
  rw [foldlM_fireStep_run hpost, stepReports_append, List.append_assoc]

/-- A tick with a pending target due reports the steps up to the commit, arrives at the target,
and reports the steps after it. -/
theorem tick_run_due (x : Session σ × List Event) {now : Nat} {p : Pending}
    (h : x.1.fade.state.dueBy now = some p) :
    ∃ pre step post, (x.1.fade.poll now).2 = pre ++ step :: post ∧ step.commit = some p ∧
      pre.filterMap Step.commit = [] ∧ post.filterMap Step.commit = [] ∧
      ((tick now : Act σ (Option Update)).run x).run =
        (some ((arrive p.targetId p.target : Act σ Update).run
            ({ x.1 with fade := (x.1.fade.poll now).1 }, x.2 ++ stepReports (pre ++ [step]))).run.1,
          ((arrive p.targetId p.target : Act σ Update).run
            ({ x.1 with fade := (x.1.fade.poll now).1 },
              x.2 ++ stepReports (pre ++ [step]))).run.2.1,
          ((arrive p.targetId p.target : Act σ Update).run
            ({ x.1 with fade := (x.1.fade.poll now).1 },
              x.2 ++ stepReports (pre ++ [step]))).run.2.2 ++
            stepReports post) := by
  have hcommits := Sequencer.commits_poll x.1.fade now
  rw [h] at hcommits
  obtain ⟨pre, step, post, hsteps, hpre, hstep, hpost⟩ := List.filterMap_eq_cons_iff.1 hcommits
  have hpre' : pre.filterMap Step.commit = [] := List.filterMap_eq_nil_iff.2 hpre
  refine ⟨pre, step, post, hsteps, hstep, hpre', hpost, ?_⟩
  have htick : ((tick now : Act σ (Option Update)).run x).run =
      (((x.1.fade.poll now).2.foldlM fireStep none : Act σ (Option Update)).run
        ({ x.1 with fade := (x.1.fade.poll now).1 }, x.2)).run := by
    simp [tick, current, update]
  rw [htick, hsteps, foldlM_fireStep_commit hpre' hstep hpost]

/-! ## Continuing and importing -/

/-- Continuing either changes nothing and reports nothing, or resumes a record of the slot whose
node exists. -/
theorem continueSaved_run_cases (x : Session σ × List Event) :
    (((continueSaved : Act σ _).run x).run.2 = (x.1, x.2) ∧
        ∀ u, ((continueSaved : Act σ _).run x).run.1 ≠ .ok (some u)) ∨
      ∃ r : Record, x.1.ensureNode r.toProgress.current = .ok () ∧
        ((continueSaved : Act σ _).run x).run =
          (.ok (some (resumed x r.toProgress).1), (resumed x r.toProgress).2) := by
  cases hload : Slots.load x.1.store x.1.config.sheetId with
  | error p => left; simp [continueSaved, current, hload]
  | ok r? =>
    cases r? with
    | none => left; simp [continueSaved, current, hload]
    | some r =>
      cases hnode : x.1.ensureNode r.toProgress.current with
      | error e => left; simp [continueSaved, current, hload, resume_error hnode, Except.map]
      | ok _ =>
        right
        exact ⟨r, hnode, by simp [continueSaved, current, hload, resume_run_ok x hnode, Except.map]⟩

/-- Importing either fails, reporting nothing and changing nothing but perhaps the store, or
stores a record whose node exists and resumes it. -/
theorem importSave_run_cases (x : Session σ × List Event) (json : String) :
    ((∃ st, ((importSave json : Act σ _).run x).run.2 = ({ x.1 with store := st }, x.2)) ∧
        ∀ u, ((importSave json : Act σ _).run x).run.1 ≠ .ok u) ∨
      ∃ (r : Record) (st : σ), x.1.ensureNode r.toProgress.current = .ok () ∧
        ((importSave json : Act σ _).run x).run =
          (.ok (resumed ({ x.1 with store := st }, x.2) r.toProgress).1,
            (resumed ({ x.1 with store := st }, x.2) r.toProgress).2) := by
  cases himport : Record.importFor json x.1.config.sheetId with
  | error p => left; exact ⟨⟨x.1.store, by simp [importSave, current, himport]⟩, by
      simp [importSave, current, himport]⟩
  | ok r =>
    cases hnode : x.1.ensureNode r.currentNodeId with
    | error e => left; exact ⟨⟨x.1.store, by simp [importSave, current, himport, hnode]⟩, by
        simp [importSave, current, himport, hnode]⟩
    | ok _ =>
      cases hsave : Slots.save x.1.store r with
      | mk st outcome =>
        cases outcome with
        | error p =>
          left
          exact ⟨⟨st, by simp [importSave, current, update, himport, hnode, hsave]⟩, by
            simp [importSave, current, update, himport, hnode, hsave]⟩
        | ok _ =>
          right
          -- the store write keeps the book, so the node check passes again inside `resume`
          have hnode' : ({ x.1 with store := st } : Session σ).ensureNode r.toProgress.current =
              .ok () := hnode
          exact ⟨r, st, hnode, by
            rw [importSave_ok x himport hnode hsave,
              resume_run_ok ({ x.1 with store := st }, x.2) hnode']⟩

end Novel.Play.Session
