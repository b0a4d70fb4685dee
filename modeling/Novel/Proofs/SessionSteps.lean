import Novel.Play.Session
import Novel.Proofs.FadeSteps

/-!
# What each session operation does to the course of play

Where the player is and where play goes next is decided by three parts of a session: the book,
the progress and the fade. Together they are its *course*. The stage, the store, the
configuration and the clock are read by the operations but never decide the course.

Every operation gets one lemma here that says what it does to the course, for any session and
any events reported so far. Later proofs cite these and never unfold an operation:

* starting and loading a book drop the fade and put the player at the start node;
* selecting is ignored while a fade runs, and otherwise either does nothing, starts a fade
  towards the chosen target, or moves there at once;
* ticking replaces the fade by its poll and moves the player once for each commit;
* continuing and importing either leave the course alone or drop the fade and restore a saved
  progress whose node exists;
* saving, deleting and asking for the prompt leave it alone.

An operation runs in `StateM` over the session and the events; its result, the session after it
and the events are `((op.run x).run)`.
-/

namespace Novel.Story

theorem Graph.contains_of_get? {g : Graph} {id : String} {n : Node} (h : g.get? id = some n) :
    g.contains id = true := by
  simp only [Graph.get?] at h
  have hid := List.find?_some h
  simp only [Graph.contains, List.any_eq_true]
  exact ⟨n, List.mem_of_find?_eq_some h, hid⟩

theorem Graph.get?_isSome {g : Graph} {id : String} (h : g.contains id = true) :
    (g.get? id).isSome = true := by
  simp only [Graph.contains, List.any_eq_true] at h
  simp only [Graph.get?, List.find?_isSome]
  exact h

end Novel.Story

namespace Novel.Play

open Novel.Story

/-- Every visible choice is one of the node's choices, and its target, when it exists, is
unlocked by the flags. -/
theorem mem_visibleChoices {g : Graph} {flags : List String} {cs : List Choice} {c : Choice}
    (h : c ∈ (visibleChoices g flags cs).1) :
    c ∈ cs ∧ ∀ t, g.get? c.target = some t → t.unlockedBy flags = true := by
  induction cs with
  | nil => simp [visibleChoices] at h
  | cons c' cs ih =>
    simp only [visibleChoices] at h
    split at h
    · rename_i t ht
      split at h
      · rename_i hunlocked
        rcases List.mem_cons.1 h with rfl | h
        · exact ⟨List.mem_cons_self, fun t' ht' => by rw [ht] at ht'; cases ht'; exact hunlocked⟩
        · exact ⟨List.mem_cons_of_mem _ (ih h).1, (ih h).2⟩
      · exact ⟨List.mem_cons_of_mem _ (ih h).1, (ih h).2⟩
    · rename_i ht
      rcases List.mem_cons.1 h with rfl | h
      · exact ⟨List.mem_cons_self, fun t' ht' => by rw [ht] at ht'; cases ht'⟩
      · exact ⟨List.mem_cons_of_mem _ (ih h).1, (ih h).2⟩

/-- The choice behind an entry of a prompt is one of the choices it was made from. -/
theorem Prompt.mem_of_get? {cs : List Choice} {policy : Policy} {i : Nat} {c : Choice}
    (h : (Prompt.classify cs policy).get? i = some c) : c ∈ cs := by
  unfold Prompt.classify at h
  split at h
  · simp [Prompt.get?] at h
  · rename_i c'
    -- a single choice is offered alone, as a "continue" or as a list of one
    have hc : c = c' := by
      split at h <;> simp only [Prompt.get?] at h
      · split at h <;> simp_all
      · exact List.eq_of_mem_singleton (List.mem_of_getElem? h)
    simp [hc]
  · split at h
    · exact List.mem_of_getElem? h
    · split at h
      · rename_i c' hfind
        simp only [Prompt.get?] at h
        split at h
        · cases h
          exact List.mem_of_find?_eq_some hfind
        · cases h
      · exact List.mem_of_getElem? h

end Novel.Play

namespace Novel.Play.Session

open Novel.Story Novel.Save

/-- What decides where the player is and where play goes next. -/
structure Course where
  book : Book
  progress : Progress
  fade : Sequencer

variable {σ : Type}

def course (s : Session σ) : Course := ⟨s.book, s.progress, s.fade⟩

/-! ## Entering, cancelling and starting -/

theorem course_enterCurrent (x : Session σ × List Event) :
    ((enterCurrent : Act σ Update).run x).run.2.1.course = x.1.course := by
  cases h : x.1.currentNode <;> simp [enterCurrent, current, update, emit, h, course]

@[simp] theorem cancelFade_session (x : Session σ × List Event) :
    ((cancelFade : Act σ Unit).run x).run.2.1 = { x.1 with fade := x.1.fade.cancel.1 } := by
  cases h : x.1.fade.cancel.2 <;> simp [cancelFade, current, update, emit, h]

theorem course_reenter (x : Session σ × List Event) :
    ((reenter : Act σ Update).run x).run.2.1.course = x.1.course := by
  simp [reenter, current, update, course_enterCurrent]
  rfl

theorem course_start (x : Session σ × List Event) :
    ((start : Act σ Update).run x).run.2.1.course =
      { x.1.course with progress := Progress.start x.1.book.start, fade := x.1.fade.cancel.1 } := by
  simp [start, update, course_reenter]
  rfl

theorem course_restart (x : Session σ × List Event) :
    ((restart : Act σ Update).run x).run.2.1.course =
      { x.1.course with progress := Progress.start x.1.book.start, fade := x.1.fade.cancel.1 } :=
  course_start x

theorem course_loadBook (x : Session σ × List Event) (b : Book) :
    ((loadBook b : Act σ Update).run x).run.2.1.course =
      { book := b, progress := Progress.start b.start, fade := x.1.fade.cancel.1 } := by
  simp [loadBook, update, course_start]
  rfl

/-! ## The prompt -/

/-- The choices offered at the current node: those whose targets the player's flags unlock, and
those whose targets are missing. -/
def offered (s : Session σ) : List Choice :=
  match s.currentNode with
  | none => []
  | some n => (Play.visibleChoices s.book.graph s.progress.flags n.choices).1

def choiceAt (s : Session σ) (i : Nat) : Option Choice :=
  (Prompt.classify s.offered s.config.unlabeled).get? i

@[simp] theorem emit_run (e : Event) (x : Session σ × List Event) :
    ((emit e : Act σ Unit).run x).run = ((), x.1, x.2 ++ [e]) := rfl

theorem emitAll_session (events : List Event) (x : Session σ × List Event) :
    ((events.foldlM (fun _ e => emit e) () : Act σ Unit).run x).run.2.1 = x.1 := by
  induction events generalizing x with
  | nil => rfl
  | cons e events ih => simp [List.foldlM_cons, ih]

theorem visibleChoices_run (x : Session σ × List Event) :
    ((visibleChoices : Act σ (List Choice)).run x).run.1 = x.1.offered ∧
      ((visibleChoices : Act σ (List Choice)).run x).run.2.1 = x.1 := by
  cases h : x.1.currentNode <;> simp [visibleChoices, current, offered, h, emitAll_session]

theorem prompt_run (x : Session σ × List Event) :
    ((prompt : Act σ Prompt).run x).run.1 = Prompt.classify x.1.offered x.1.config.unlabeled ∧
      ((prompt : Act σ Prompt).run x).run.2.1 = x.1 := by
  obtain ⟨h1, h2⟩ := visibleChoices_run x
  simp [prompt, current, h1, h2]

/-- The choice behind an entry of the prompt is a choice of the current node, and the flags the
player holds unlock its target when the book has it. -/
theorem choiceAt_offered {s : Session σ} {i : Nat} {c : Choice} (h : s.choiceAt i = some c) :
    ∃ n, s.currentNode = some n ∧ c ∈ n.choices ∧
      ∀ t, s.book.node? c.target = some t → ∀ f ∈ t.required, f ∈ s.progress.flags := by
  have hmem : c ∈ s.offered := Prompt.mem_of_get? h
  unfold offered at hmem
  split at hmem
  · simp at hmem
  · rename_i n hn
    obtain ⟨hc, hunlock⟩ := mem_visibleChoices hmem
    refine ⟨n, hn, hc, fun t ht f hf => ?_⟩
    have := hunlock t ht
    simp only [Node.unlockedBy, List.all_eq_true, List.contains_iff_mem] at this
    exact this f hf

/-! ## Resuming -/

theorem ensureNode_eq_ok {s : Session σ} {id : String} :
    s.ensureNode id = .ok () ↔ s.book.graph.contains id = true := by
  unfold ensureNode
  split <;> simp_all

theorem resume_error {x : Session σ × List Event} {p : Progress} {e : PlayerProblem}
    (h : x.1.ensureNode p.current = .error e) :
    ((resume p : Act σ (Except PlayerProblem Update)).run x).run = (.error e, x.1, x.2) := by
  simp [resume, current, h]

/-- Resuming a progress whose node exists drops the fade and restores the progress. -/
theorem resume_ok {x : Session σ × List Event} {p : Progress}
    (h : x.1.ensureNode p.current = .ok ()) :
    (∃ u, ((resume p : Act σ (Except PlayerProblem Update)).run x).run.1 = .ok u) ∧
      ((resume p : Act σ (Except PlayerProblem Update)).run x).run.2.1.course =
        { x.1.course with progress := p, fade := x.1.fade.cancel.1 } := by
  simp [resume, current, update, h, course_reenter]
  simp [course]

variable [Slots σ]

/-! ## Arriving -/

theorem course_autosave (x : Session σ × List Event) :
    ((autosave : Act σ Unit).run x).run.2.1.course = x.1.course := by
  cases h : (Slots.save x.1.store x.1.snapshot).2 <;>
    simp [autosave, current, update, emit, h, course]

theorem course_arrive (x : Session σ × List Event) (id : String) (target : Node) :
    ((arrive id target : Act σ Update).run x).run.2.1.course =
      { x.1.course with progress := x.1.progress.moveTo id target } := by
  cases h : target.transition.autosaves <;>
    simp [arrive, update, h, course_enterCurrent, course_autosave] <;> rfl

/-! ## Selecting -/

section Select

variable (x : Session σ × List Event) (i now : Nat)

theorem select_busy (h : x.1.fade.idle = false) :
    ((select i now : Act σ Outcome).run x).run =
      (.ignored, x.1, x.2 ++ [.inputIgnored x.1.fade.phase]) := by
  simp [select, current, h]

theorem select_noChoice (h : x.1.fade.idle = true) (hc : x.1.choiceAt i = none) :
    ((select i now : Act σ Outcome).run x).run.1 = .noSuchChoice ∧
      ((select i now : Act σ Outcome).run x).run.2.1 = x.1 := by
  obtain ⟨h1, h2⟩ := prompt_run x
  simp [choiceAt] at hc
  simp [select, current, h, h1, h2, hc]

theorem select_dangling {c : Choice} (h : x.1.fade.idle = true) (hc : x.1.choiceAt i = some c)
    (ht : x.1.book.node? c.target = none) :
    ((select i now : Act σ Outcome).run x).run.1 = .danglingTarget ∧
      ((select i now : Act σ Outcome).run x).run.2.1 = x.1 := by
  obtain ⟨h1, h2⟩ := prompt_run x
  simp [choiceAt] at hc
  simp [select, current, h, h1, h2, hc, ht]

/-- Selecting a fade target starts the fade and changes nothing else. -/
theorem select_fade {c : Choice} {target : Node} (h : x.1.fade.idle = true)
    (hc : x.1.choiceAt i = some c) (ht : x.1.book.node? c.target = some target)
    (hf : target.transition = .fade) :
    ((select i now : Act σ Outcome).run x).run.1 = .fadeStarted ∧
      ((select i now : Act σ Outcome).run x).run.2.1 =
        { x.1 with fade := (x.1.fade.begin c.target target now).1 } := by
  obtain ⟨h1, h2⟩ := prompt_run x
  simp [choiceAt] at hc
  simp [select, current, update, h, h1, h2, hc, ht, hf]

/-- Selecting a cut or checkpoint target moves the player there at once. -/
theorem select_move {c : Choice} {target : Node} (h : x.1.fade.idle = true)
    (hc : x.1.choiceAt i = some c) (ht : x.1.book.node? c.target = some target)
    (hf : target.transition ≠ .fade) :
    (∃ u, ((select i now : Act σ Outcome).run x).run.1 = .navigated u) ∧
      ((select i now : Act σ Outcome).run x).run.2.1.course =
        { x.1.course with progress := x.1.progress.moveTo c.target target } := by
  obtain ⟨h1, h2⟩ := prompt_run x
  simp [choiceAt] at hc
  cases htr : target.transition with
  | fade => exact absurd htr hf
  | cut => simp [select, current, h, h1, h2, hc, ht, htr, course_arrive]
  | checkpoint => simp [select, current, h, h1, h2, hc, ht, htr, course_arrive]

/-- **What a selection can do.** Nothing (it is ignored, finds no choice or a dangling target),
start a fade towards a chosen target, or move there at once; the last two only while no fade
runs. -/
theorem select_cases :
    (((select i now : Act σ Outcome).run x).run.2.1 = x.1 ∧
        ((select i now : Act σ Outcome).run x).run.1 ≠ .fadeStarted ∧
        ∀ u, ((select i now : Act σ Outcome).run x).run.1 ≠ .navigated u) ∨
      (∃ c target, x.1.fade.idle = true ∧ x.1.choiceAt i = some c ∧
        x.1.book.node? c.target = some target ∧ target.transition = .fade ∧
        ((select i now : Act σ Outcome).run x).run.1 = .fadeStarted ∧
        ((select i now : Act σ Outcome).run x).run.2.1 =
          { x.1 with fade := (x.1.fade.begin c.target target now).1 }) ∨
      (∃ c target, x.1.fade.idle = true ∧ x.1.choiceAt i = some c ∧
        x.1.book.node? c.target = some target ∧ target.transition ≠ .fade ∧
        (∃ u, ((select i now : Act σ Outcome).run x).run.1 = .navigated u) ∧
        ((select i now : Act σ Outcome).run x).run.2.1.course =
          { x.1.course with progress := x.1.progress.moveTo c.target target }) := by
  cases hidle : x.1.fade.idle with
  | false =>
    left
    rw [select_busy x i now hidle]
    exact ⟨rfl, Outcome.noConfusion, fun u => Outcome.noConfusion⟩
  | true =>
    cases hch : x.1.choiceAt i with
    | none =>
      left
      obtain ⟨h1, h2⟩ := select_noChoice x i now hidle hch
      rw [h1, h2]
      exact ⟨rfl, Outcome.noConfusion, fun u => Outcome.noConfusion⟩
    | some c =>
      cases ht : x.1.book.node? c.target with
      | none =>
        left
        obtain ⟨h1, h2⟩ := select_dangling x i now hidle hch ht
        rw [h1, h2]
        exact ⟨rfl, Outcome.noConfusion, fun u => Outcome.noConfusion⟩
      | some target =>
        by_cases hf : target.transition = .fade
        · exact .inr (.inl ⟨c, target, rfl, rfl, ht, hf, select_fade x i now hidle hch ht hf⟩)
        · exact .inr (.inr ⟨c, target, rfl, rfl, ht, hf, select_move x i now hidle hch ht hf⟩)

end Select

/-! ## Saves -/

theorem course_save (x : Session σ × List Event) :
    ((save : Act σ (Except PlayerProblem Unit)).run x).run.2.1.course = x.1.course := by
  simp [save, current, update]
  rfl

theorem course_deleteSave (x : Session σ × List Event) :
    ((deleteSave : Act σ (Except PlayerProblem Unit)).run x).run.2.1.course = x.1.course := by
  simp [deleteSave, current, update]
  rfl

/-- Continuing either changes nothing and resumes nothing, or resumes a record of the slot whose
node exists: the fade is dropped and the record's progress restored. -/
theorem continueSaved_cases (x : Session σ × List Event) :
    (((continueSaved : Act σ _).run x).run.2.1 = x.1 ∧
        ∀ u, ((continueSaved : Act σ _).run x).run.1 ≠ .ok (some u)) ∨
      ∃ r u, Slots.load x.1.store x.1.config.sheetId = .ok (some r) ∧
        x.1.book.graph.contains r.currentNodeId = true ∧
        ((continueSaved : Act σ _).run x).run.1 = .ok (some u) ∧
        ((continueSaved : Act σ _).run x).run.2.1.course =
          { x.1.course with progress := r.toProgress, fade := x.1.fade.cancel.1 } := by
  cases hload : Slots.load x.1.store x.1.config.sheetId with
  | error p => left; simp [continueSaved, current, hload]
  | ok r? =>
    cases r? with
    | none => left; simp [continueSaved, current, hload]
    | some r =>
      cases hnode : x.1.ensureNode r.toProgress.current with
      | error e => left; simp [continueSaved, current, hload, resume_error hnode, Except.map]
      | ok _ =>
        right
        obtain ⟨⟨u, hu⟩, hcourse⟩ := resume_ok hnode
        refine ⟨r, u, rfl, ensureNode_eq_ok.1 hnode, ?_, ?_⟩
        · simp [continueSaved, current, hload, hu, Except.map]
        · simpa [continueSaved, current, hload] using hcourse

/-- Importing either fails and leaves the course as it was (a store that failed may have kept
part of the write), or stores a record for this sheet whose node exists and resumes it. -/
theorem importSave_cases (x : Session σ × List Event) (json : String) :
    (((importSave json : Act σ _).run x).run.2.1.course = x.1.course ∧
        ∀ u, ((importSave json : Act σ _).run x).run.1 ≠ .ok u) ∨
      ∃ r u, Record.importFor json x.1.config.sheetId = .ok r ∧
        x.1.book.graph.contains r.currentNodeId = true ∧
        ((importSave json : Act σ _).run x).run.1 = .ok u ∧
        ((importSave json : Act σ _).run x).run.2.1.course =
          { x.1.course with progress := r.toProgress, fade := x.1.fade.cancel.1 } := by
  cases himport : Record.importFor json x.1.config.sheetId with
  | error p => left; simp [importSave, current, himport]
  | ok r =>
    cases hnode : x.1.ensureNode r.currentNodeId with
    | error e => left; simp [importSave, current, himport, hnode]
    | ok _ =>
      cases hsave : (Slots.save x.1.store r).2 with
      | error p => left; simp [importSave, current, update, himport, hnode, hsave]; rfl
      | ok _ =>
        right
        -- the store write keeps the book, so the node check passes again inside `resume`
        have hnode' : ({ x.1 with store := (Slots.save x.1.store r).1 } : Session σ).ensureNode
            r.toProgress.current = .ok () := hnode
        obtain ⟨⟨u, hu⟩, hcourse⟩ :=
          @resume_ok σ ({ x.1 with store := (Slots.save x.1.store r).1 }, x.2) _ hnode'
        refine ⟨r, u, rfl, ensureNode_eq_ok.1 hnode, ?_, ?_⟩
        · simp [importSave, current, update, himport, hnode, hsave, hu]
        · simp [importSave, current, update, himport, hnode, hsave, hcourse]
          rfl

/-! ## Ticking -/

/-- The progress after moving to each committed target in turn. -/
def moveAlong (g : Progress) (ps : List Pending) : Progress :=
  ps.foldl (fun g p => g.moveTo p.targetId p.target) g

theorem moveAlong_append (g : Progress) (ps qs : List Pending) :
    moveAlong g (ps ++ qs) = moveAlong (moveAlong g ps) qs := List.foldl_append

theorem course_fireStep (x : Session σ × List Event) (entered : Option Update) (step : Step) :
    ((fireStep entered step : Act σ (Option Update)).run x).run.2.1.course =
      { x.1.course with progress := moveAlong x.1.progress step.commit.toList } := by
  cases h : step.commit with
  | none => simp [fireStep, h, moveAlong]; rfl
  | some p => simp [fireStep, h, course_arrive, moveAlong]

/-- Firing the steps of a poll moves the player once for each commit among them, in order. -/
theorem course_foldlM_fireStep (steps : List Step) (entered : Option Update)
    (x : Session σ × List Event) :
    ((steps.foldlM fireStep entered : Act σ (Option Update)).run x).run.2.1.course =
      { x.1.course with progress := moveAlong x.1.progress (steps.filterMap Step.commit) } := by
  induction steps generalizing entered x with
  | nil => simp [moveAlong]; rfl
  | cons step steps ih =>
    have hstep := course_fireStep x entered step
    simp only [List.foldlM_cons, StateT.run_bind, Id.run_bind, ih]
    generalize ((fireStep entered step : Act σ (Option Update)).run x).run.2.1 = y at hstep ⊢
    have hb : y.course.book = x.1.course.book := by rw [hstep]
    have hf : y.course.fade = x.1.course.fade := by rw [hstep]
    have hp : y.progress = moveAlong x.1.progress step.commit.toList := by
      change y.course.progress = _
      rw [hstep]
    -- the commit of this step, if any, comes before those of the later steps
    have hcommits : (step :: steps).filterMap Step.commit =
        step.commit.toList ++ steps.filterMap Step.commit := by
      cases h : step.commit <;> simp [h]
    rw [hb, hf, hp, hcommits, moveAlong_append]

/-- Ticking polls the fade and moves the player to each target the poll commits. -/
theorem course_tick (x : Session σ × List Event) (now : Nat) :
    ((tick now : Act σ (Option Update)).run x).run.2.1.course =
      { x.1.course with
        fade := (x.1.fade.poll now).1,
        progress := moveAlong x.1.progress ((x.1.fade.poll now).2.filterMap Step.commit) } := by
  simp [tick, current, update, course_foldlM_fireStep]
  simp [course]

/-- A tick with nothing due only advances the fade. -/
theorem course_tick_of_not_due (x : Session σ × List Event) {now : Nat}
    (h : x.1.fade.state.dueBy now = none) :
    ((tick now : Act σ (Option Update)).run x).run.2.1.course =
      { x.1.course with fade := (x.1.fade.poll now).1 } := by
  rw [course_tick, Sequencer.commits_poll, h]
  rfl

/-- A tick past the deadline of a pending target moves the player there, once. -/
theorem course_tick_of_due (x : Session σ × List Event) {now : Nat} {p : Pending}
    (h : x.1.fade.state.dueBy now = some p) :
    ((tick now : Act σ (Option Update)).run x).run.2.1.course =
      { x.1.course with fade := (x.1.fade.poll now).1,
                        progress := x.1.progress.moveTo p.targetId p.target } := by
  rw [course_tick, Sequencer.commits_poll, h]
  rfl

end Novel.Play.Session
