import Novel.Proofs.BookLoading
import Novel.Proofs.FadeOrder
import Novel.Proofs.OperationRuns

/-!
# The event stream follows the session

An observer that records every event of a session, from the build on, sees a stream that agrees
with the session it watches:

* the phase changes, in order, walk the cycle hidden → fading out → black → fading in → hidden,
  each starting where the one before it ended, except that a dropped fade returns to hidden;
  following them from hidden ends at the session's phase (`Phase.follow`);
* a dropped fade is reported at most once per operation, and exactly when the operation drops a
  fade that was running (loading a book drops the fade twice, the second time with none left);
* an operation that puts the player on a node (starting, restarting, loading a book, a selection
  that moves, a tick that commits, a continue or import that resumes) reports entering exactly
  one node, the one it leaves current, with the scene of the stage it leaves; any other reports
  none.

Each operation's events are assembled from a few parts whose reports are known: the drop of the
fade, the entry into a node, the steps of a fade, and reports that say nothing of either (hidden
choices, saves on arrival, ignored input, dangling targets). `reports_run` says what one
operation reports; `follow_exec` follows the phase along a whole run.
-/

namespace Novel

/-- Whether an event says nothing of the fade or of the node entered: every event but a change
of phase, a dropped fade and an entered node. -/
def Event.isQuiet : Event → Bool
  | .phaseChanged _ _ | .transitionCancelled | .nodeEntered _ _ => false
  | _ => true

/-- Whether an event reports entering a node. -/
def Event.isNodeEntered : Event → Bool
  | .nodeEntered _ _ => true
  | _ => false

end Novel

namespace Novel.Play

open Novel.Story

/-- The phase after a phase, round the cycle of a fade. -/
def Phase.next : Phase → Phase
  | .hidden => .fadingOut
  | .fadingOut => .black
  | .black => .fadingIn
  | .fadingIn => .hidden

/-- The phase an observer of the events ends at, starting from `p`: a phase change must start at
the phase reached so far and move one step round the cycle, and a dropped fade must have been
running and leaves the screen hidden. `none` when an event breaks these rules. -/
def Phase.follow : Phase → List Event → Option Phase
  | p, [] => some p
  | p, .phaseChanged a b :: es => if a = p ∧ b = p.next then follow b es else none
  | p, .transitionCancelled :: es => if p ≠ .hidden then follow .hidden es else none
  | p, _ :: es => follow p es

namespace Phase

@[simp] theorem follow_nil (p : Phase) : follow p [] = some p := by
  simp [follow]

theorem follow_append (p : Phase) (es es' : List Event) :
    follow p (es ++ es') = (follow p es).bind (fun q => follow q es') := by
  induction es generalizing p with
  | nil => simp
  | cons e es ih =>
    cases e <;> simp only [List.cons_append, follow, ih] <;> split <;> rfl

theorem follow_cons_quiet {e : Event} (he : e.isQuiet = true) (p : Phase) (es : List Event) :
    follow p (e :: es) = follow p es := by
  cases e <;> simp_all [follow, Event.isQuiet]

theorem follow_nodeEntered (p : Phase) (id : String) (scene : Nat) (es : List Event) :
    follow p (.nodeEntered id scene :: es) = follow p es := by
  simp [follow]

/-- Events that say nothing of the fade leave the observer where it was. -/
theorem follow_quiet {es : List Event} (h : ∀ e ∈ es, e.isQuiet = true) (p : Phase) :
    follow p es = some p := by
  induction es with
  | nil => simp
  | cons e es ih =>
    rw [follow_cons_quiet (h e List.mem_cons_self)]
    exact ih fun e' he' => h e' (List.mem_cons_of_mem _ he')

end Phase

theorem count_quiet {es : List Event} (h : ∀ e ∈ es, e.isQuiet = true) :
    es.count .transitionCancelled = 0 := by
  apply List.count_eq_zero.2
  intro hmem
  simpa [Event.isQuiet] using h _ hmem

theorem filter_quiet {es : List Event} (h : ∀ e ∈ es, e.isQuiet = true) :
    es.filter Event.isNodeEntered = [] := by
  apply List.filter_eq_nil_iff.2
  intro e he
  have hq := h e he
  cases e <;> simp [Event.isQuiet, Event.isNodeEntered] at hq ⊢

/-- The choices hidden from a prompt are reported quietly. -/
theorem visibleChoices_quiet (g : Graph) (flags : List String) (cs : List Choice) :
    ∀ e ∈ (visibleChoices g flags cs).2, e.isQuiet = true := by
  induction cs with
  | nil => simp [visibleChoices]
  | cons c cs ih =>
    simp only [visibleChoices]
    split
    · split
      · exact ih
      · intro e he
        rcases List.mem_cons.1 he with rfl | he
        · rfl
        · exact ih e he
    · exact ih

/-! ## The steps of a fade -/

namespace Sequencer

variable (s : Sequencer) (now : Nat)

/-- A fired step reports the move from the state's phase to the next state's, one step round
the cycle. -/
theorem fire_reports {st next : FadeState} {step : Step} (h : s.fire st = (next, some step)) :
    Phase.follow st.phase [.phaseChanged step.before step.after] = some next.phase := by
  cases st <;> simp only [fire, Prod.mk.injEq, Option.some.injEq, reduceCtorEq, and_false] at h <;>
    obtain ⟨rfl, rfl⟩ := h <;> rfl

/-- The steps of a poll walk the cycle from the state polled to the state it leaves. -/
theorem follow_pollFrom (st : FadeState) :
    Phase.follow st.phase (Session.stepReports (s.pollFrom now st).2) =
      some (s.pollFrom now st).1.phase := by
  fun_induction s.pollFrom now st with
  | case1 => rfl
  | case2 st d hd hle next step hf last steps hpoll ih =>
    -- the step fired first, then the steps of the poll from the state it leads to
    rw [hpoll] at ih
    show Phase.follow st.phase
        ([.phaseChanged step.before step.after] ++ Session.stepReports steps) = some last.phase
    rw [Phase.follow_append, fire_reports s hf, Option.bind_some]
    exact ih
  | case3 st d hd hle next hf =>
    -- only the idle state fires nothing, and it has no deadline
    cases st <;> simp [fire, FadeState.deadline] at hf hd
  | case4 => rfl

theorem follow_poll :
    Phase.follow s.phase (Session.stepReports (s.poll now).2) = some (s.poll now).1.phase :=
  follow_pollFrom s now s.state

end Sequencer

end Novel.Play

namespace Novel.Story

theorem Graph.id_of_get? {g : Graph} {id : String} {n : Node} (h : g.get? id = some n) :
    n.id = id := by
  simp only [Graph.get?] at h
  simpa using List.find?_some h

end Novel.Story

namespace Novel.Play.Session

open Novel.Story Novel.Save

variable {σ : Type}

/-! ## The parts of an operation's events -/

theorem id_of_currentNode {s : Session σ} {n : Node} (h : s.currentNode = some n) :
    n.id = s.progress.current :=
  Graph.id_of_get? h

theorem cancelReports_eq (f : Sequencer) :
    cancelReports f = if f.phase = .hidden then [] else [.transitionCancelled] := by
  cases h : f.state <;> simp [cancelReports, Sequencer.cancel, Sequencer.phase, FadeState.phase, h]

theorem follow_cancelReports (f : Sequencer) :
    Phase.follow f.phase (cancelReports f) = some .hidden := by
  rw [cancelReports_eq]
  split
  · rename_i h
    rw [h, Phase.follow_nil]
  · rename_i h
    simp [Phase.follow, h]

theorem hiddenReports_quiet (s : Session σ) : ∀ e ∈ hiddenReports s, e.isQuiet = true := by
  unfold hiddenReports
  split
  · simp
  · exact visibleChoices_quiet _ _ _

theorem visibleChoices_reports (x : Session σ × List Event) :
    ((visibleChoices : Act σ (List Choice)).run x).run.2.2 = x.2 ++ hiddenReports x.1 := by
  cases h : x.1.currentNode <;> simp [visibleChoices, current, hiddenReports, h, emitAll_run]

/-- Loading a book reports nothing of the fade or of a node entered, and neither does
building. -/
theorem ofSheets_quiet (story metadata : String) :
    ∀ e ∈ (Book.ofSheets story metadata).1, e.isQuiet = true := by
  have h := Book.loading_ofSheets story metadata
  generalize Book.ofSheets story metadata = out at h
  intro e he
  cases h <;> cases e <;> simp_all [Event.isQuiet, Book.layoutNotice, Book.duplicateReports]

theorem build_quiet (config : ConfigSource) (book : BookSource) (store : σ) :
    ∀ e ∈ (build config book store).1, e.isQuiet = true := by
  unfold build
  split
  · simp
  · cases book with
    | loaded b => simp
    | none => simp
    | sheets story metadata =>
      dsimp only
      -- the book's events pass through whether it loads or not
      split
      all_goals
        rename_i h
        rw [← (Prod.mk.inj h).1]
        exact ofSheets_quiet story metadata

theorem count_stepReports (steps : List Step) :
    (stepReports steps).count .transitionCancelled = 0 := by
  simp [stepReports, List.count_eq_zero]

theorem filter_stepReports (steps : List Step) :
    (stepReports steps).filter Event.isNodeEntered = [] := by
  simp [stepReports, List.filter_map, Function.comp_def, Event.isNodeEntered]

/-- Re-entering a node that exists reports entering it, with the scene it leaves. -/
theorem reenter_reports (y : Session σ × List Event) {n : Node} (h : y.1.currentNode = some n) :
    ((reenter : Act σ Update).run y).run.2.2 =
      y.2 ++ [.nodeEntered y.1.progress.current
        ((reenter : Act σ Update).run y).run.2.1.stage.scene] := by
  have h' : ({ y.1 with stage := y.1.stage.reset.1 } : Session σ).currentNode = some n := h
  rw [reenter_run]
  dsimp only at h' ⊢
  rw [enterCurrent_some ({ y.1 with stage := y.1.stage.reset.1 }, y.2) h']
  dsimp only
  rw [id_of_currentNode h]

theorem reenter_fade (y : Session σ × List Event) :
    ((reenter : Act σ Update).run y).run.2.1.fade = y.1.fade :=
  congrArg Course.fade (course_reenter y)

theorem reenter_current (y : Session σ × List Event) :
    ((reenter : Act σ Update).run y).run.2.1.progress.current = y.1.progress.current :=
  congrArg (fun c => c.progress.current) (course_reenter y)

variable [Slots σ]

theorem autosaveReport_quiet (s : Session σ) : (autosaveReport s).isQuiet = true := by
  unfold autosaveReport
  split <;> rfl

/-- Arriving at a target of the book reports entering it, then at most a quiet report of the
save on arrival. -/
theorem arrive_reports (y : Session σ × List Event) {id : String} {target : Node}
    (h : y.1.book.node? id = some target) :
    ∃ tail, ((arrive id target : Act σ Update).run y).run.2.2 =
        y.2 ++ .nodeEntered id ((arrive id target : Act σ Update).run y).run.2.1.stage.scene ::
          tail ∧
      ∀ e ∈ tail, e.isQuiet = true := by
  have h' : ({ y.1 with progress := y.1.progress.moveTo id target } : Session σ).currentNode =
      some target := h
  have hid : target.id = id := Graph.id_of_get? h
  rw [arrive_run]
  dsimp only at h' ⊢
  rw [enterCurrent_some ({ y.1 with progress := y.1.progress.moveTo id target }, y.2) h']
  dsimp only
  split
  · exact ⟨[_], by rw [hid, List.append_assoc]; rfl, by simp [autosaveReport_quiet]⟩
  · exact ⟨[], by rw [hid], by simp⟩

theorem arrive_fade (y : Session σ × List Event) (id : String) (target : Node) :
    ((arrive id target : Act σ Update).run y).run.2.1.fade = y.1.fade :=
  congrArg Course.fade (course_arrive y id target)

theorem arrive_current (y : Session σ × List Event) (id : String) (target : Node) :
    ((arrive id target : Act σ Update).run y).run.2.1.progress.current = id :=
  congrArg (fun c => c.progress.current) (course_arrive y id target)

/-! ## What an operation reports -/

/-- The events an operation reports on a session, in order. -/
def Op.events (o : Op) (s : Session σ) : List Event :=
  match o with
  | .start => ((Session.start : Act σ Update).run (s, [])).run.2.2
  | .restart => ((Session.restart : Act σ Update).run (s, [])).run.2.2
  | .select i now => ((Session.select i now : Act σ Outcome).run (s, [])).run.2.2
  | .tick now => ((Session.tick now : Act σ (Option Update)).run (s, [])).run.2.2
  | .continueSaved => ((Session.continueSaved : Act σ _).run (s, [])).run.2.2
  | .importSave json => ((Session.importSave json : Act σ _).run (s, [])).run.2.2
  | .loadBook b => ((Session.loadBook b : Act σ Update).run (s, [])).run.2.2
  | .save => ((Session.save : Act σ _).run (s, [])).run.2.2
  | .deleteSave => ((Session.deleteSave : Act σ _).run (s, [])).run.2.2
  | .prompt => ((Session.prompt : Act σ Prompt).run (s, [])).run.2.2
  | .visibleChoices => ((Session.visibleChoices : Act σ (List Choice)).run (s, [])).run.2.2

/-- The events reported along a run of operations, in order. -/
def eventsAlong : Session σ → List Op → List Event
  | _, [] => []
  | s, o :: os => o.events s ++ eventsAlong (o.run s) os

/-- The operations that put the player on a node, as they act on `s`: starting, restarting and
loading a book always do; a selection does when it moves, a tick when it commits a target, and
a continue or an import when it resumes, which is when it drops the fade. -/
def Op.Enters (o : Op) (s : Session σ) : Prop :=
  match o with
  | .start | .restart | .loadBook _ => True
  | .select i now => ∃ u, ((Session.select i now : Act σ Outcome).run (s, [])).run.1 = .navigated u
  | .tick now => ∃ u, ((Session.tick now : Act σ (Option Update)).run (s, [])).run.1 = some u
  | .continueSaved | .importSave _ => o.Cancels s
  | _ => False

/-- What an observer must see in the events `es` of an operation `o` on `s`. -/
structure Op.Reports (o : Op) (s : Session σ) (es : List Event) : Prop where
  /-- The phase changes walk on from the session's phase to the phase the operation leaves. -/
  follows : Phase.follow s.fade.phase es = some (o.run s).fade.phase
  /-- A dropped fade is reported at most once, -/
  cancelled_le_one : es.count .transitionCancelled ≤ 1
  /-- and exactly when the operation drops a fade that was running. -/
  cancelled_iff : es.count .transitionCancelled = 1 ↔ o.Cancels s ∧ s.fade.phase ≠ .hidden
  /-- An operation that puts the player on a node reports entering it once, naming the node it
  leaves current, with the scene of the stage it leaves; -/
  entered : o.Enters s →
    es.filter Event.isNodeEntered = [.nodeEntered (o.run s).progress.current (o.run s).stage.scene]
  /-- any other reports entering none. -/
  not_entered : ¬ o.Enters s → es.filter Event.isNodeEntered = []

namespace Op.Reports

variable {o : Op} {s : Session σ} {es : List Event}

/-- An operation that drops no fade and enters no node reports neither. -/
theorem of_stays (hfollow : Phase.follow s.fade.phase es = some (o.run s).fade.phase)
    (hcount : es.count .transitionCancelled = 0) (hfilter : es.filter Event.isNodeEntered = [])
    (hc : ¬ o.Cancels s) (hn : ¬ o.Enters s) : o.Reports s es where
  follows := hfollow
  cancelled_le_one := by omega
  cancelled_iff := by simp [hcount, hc]
  entered h := absurd h hn
  not_entered _ := hfilter

theorem of_quiet (hq : ∀ e ∈ es, e.isQuiet = true) (hphase : (o.run s).fade.phase = s.fade.phase)
    (hc : ¬ o.Cancels s) (hn : ¬ o.Enters s) : o.Reports s es :=
  of_stays (by rw [Phase.follow_quiet hq, hphase]) (count_quiet hq) (filter_quiet hq) hc hn

/-- An operation that moves the player without dropping a fade reports entering the node it
moves to between events that report no entry. -/
theorem of_moves (pre tail : List Event)
    (hes : es = pre ++ .nodeEntered (o.run s).progress.current (o.run s).stage.scene :: tail)
    (hfollow : Phase.follow s.fade.phase (pre ++ tail) = some (o.run s).fade.phase)
    (hcount : (pre ++ tail).count .transitionCancelled = 0)
    (hfilter : (pre ++ tail).filter Event.isNodeEntered = [])
    (hc : ¬ o.Cancels s) (hn : o.Enters s) : o.Reports s es := by
  rw [List.filter_append, List.append_eq_nil_iff] at hfilter
  rw [List.count_append] at hcount
  subst hes
  refine ⟨?_, ?_, ?_, fun _ => ?_, fun h => absurd hn h⟩
  · simp only [Phase.follow_append, Phase.follow_nodeEntered] at hfollow ⊢
    exact hfollow
  · simp
    omega
  · simp [hc]
    omega
  · simp [List.filter_cons, hfilter, Event.isNodeEntered]

/-- An operation that drops the fade and re-enters a node that exists reports the drop, when a
fade was running, and then entering the node. -/
theorem of_reenter (y : Session σ × List Event) (hy : y.2 = cancelReports s.fade)
    (hfade : y.1.fade = s.fade.cancel.1) (hnode : y.1.currentNode.isSome = true)
    (hrun : o.run s = ((reenter : Act σ Update).run y).run.2.1)
    (hes : es = ((reenter : Act σ Update).run y).run.2.2) (hc : o.Cancels s) (hn : o.Enters s) :
    o.Reports s es := by
  obtain ⟨n, hnode⟩ := Option.isSome_iff_exists.1 hnode
  rw [reenter_reports y hnode, hy] at hes
  have hcur : (o.run s).progress.current = y.1.progress.current := by
    rw [hrun, reenter_current]
  have hphase : (o.run s).fade.phase = .hidden := by
    rw [hrun, reenter_fade, hfade]
    rfl
  subst hes
  refine ⟨?_, ?_, ?_, fun _ => ?_, fun h => absurd hn h⟩
  · rw [Phase.follow_append, follow_cancelReports, hphase]
    simp [Phase.follow]
  · rw [cancelReports_eq]
    split <;> simp
  · rw [cancelReports_eq]
    split <;> simp_all
  · rw [cancelReports_eq, hcur, hrun]
    split <;> simp [Event.isNodeEntered]

end Op.Reports

/-- A selection is ignored during a fade, refused without a choice or a target, begins a fade
from hidden, or moves the player, reporting the entry between quiet events. -/
theorem reports_select (s : Session σ) (i now : Nat) :
    (Op.select i now).Reports s ((Op.select i now).events s) := by
  -- the three refusals leave the session as it is and report only quiet events
  have refused : ∀ r es, ((select i now : Act σ Outcome).run (s, [])).run = (r, s, es) →
      (∀ e ∈ es, e.isQuiet = true) → (∀ u, r ≠ .navigated u) →
      (Op.select i now).Reports s ((Op.select i now).events s) := by
    intro r es h hq hr
    refine Op.Reports.of_quiet ?_ (by rw [Op.run, h]) id ?_
    · rw [Op.events, h]
      exact hq
    · rintro ⟨u, hu⟩
      rw [h] at hu
      exact hr u hu
  cases hidle : s.fade.idle with
  | false =>
    exact refused _ _ (select_busy (s, []) i now hidle) (by simp [Event.isQuiet])
      fun _ => Outcome.noConfusion
  | true =>
    cases hc : s.choiceAt i with
    | none =>
      exact refused _ _ (select_run_noChoice (s, []) i now hidle hc) (hiddenReports_quiet s)
        fun _ => Outcome.noConfusion
    | some c =>
      cases ht : s.book.node? c.target with
      | none =>
        exact refused _ _ (select_run_dangling (s, []) i now hidle hc ht)
          (List.forall_mem_append.2 ⟨hiddenReports_quiet s, by simp [Event.isQuiet]⟩)
          fun _ => Outcome.noConfusion
      | some target =>
        by_cases hf : target.transition = .fade
        · -- the fade begins from hidden, and that step is all it reports
          have h := select_run_fade (s, []) i now hidle hc ht hf
          have hphase : s.fade.phase = .hidden := by simpa [Sequencer.idle] using hidle
          have hq := hiddenReports_quiet s
          have hstep : (s.fade.begin c.target target now).2 =
              { before := s.fade.phase, after := .fadingOut, time := now } := rfl
          have hafter : (s.fade.begin c.target target now).1.phase = .fadingOut := rfl
          refine Op.Reports.of_stays ?_ ?_ ?_ id ?_
          · rw [Op.events, Op.run, h]
            simp [Phase.follow_append, Phase.follow_quiet hq, Phase.follow, hstep, hafter,
              hphase, Phase.next]
          · rw [Op.events, h]
            simp [count_quiet hq]
          · rw [Op.events, h]
            simp [filter_quiet hq, Event.isNodeEntered]
          · rintro ⟨u, hu⟩
            rw [h] at hu
            cases hu
        · have h := select_run_move (s, []) i now hidle hc ht hf
          obtain ⟨tail, hev, htail⟩ := arrive_reports (s, [] ++ hiddenReports s) ht
          have hq : ∀ e ∈ ([] ++ hiddenReports s) ++ tail, e.isQuiet = true :=
            List.forall_mem_append.2 ⟨hiddenReports_quiet s, htail⟩
          refine Op.Reports.of_moves ([] ++ hiddenReports s) tail ?_ ?_ (count_quiet hq)
            (filter_quiet hq) id ⟨_, by rw [h]⟩
          · rw [Op.events, Op.run, h]
            dsimp only
            rw [hev, arrive_current]
          · rw [Op.run, h]
            dsimp only
            rw [arrive_fade, Phase.follow_quiet hq]

/-- A tick reports the steps of the fade that are due; when one of them commits, the arrival at
the pending target comes between them. -/
theorem reports_tick {s : Session σ} (hs : s.course.Consistent) (now : Nat) :
    (Op.tick now).Reports s ((Op.tick now).events s) := by
  cases hdue : s.fade.state.dueBy now with
  | none =>
    have h := tick_run_quiet (s, []) hdue
    refine Op.Reports.of_stays ?_ ?_ ?_ id ?_
    · rw [Op.events, Op.run, h]
      exact Sequencer.follow_poll s.fade now
    · rw [Op.events, h]
      exact count_stepReports _
    · rw [Op.events, h]
      exact filter_stepReports _
    · rintro ⟨u, hu⟩
      rw [h] at hu
      cases hu
  | some p =>
    -- the commit arrives at the pending target, which the book has since the session is
    -- consistent; the steps around the arrival still walk the fade
    obtain ⟨d, hstate, -⟩ := FadeState.dueBy_eq_some hdue
    have hnode : s.book.node? p.targetId = some p.target := (hs.pending_offered p d hstate).1
    obtain ⟨pre, step, post, hsteps, -, -, -, h⟩ := tick_run_due (s, []) hdue
    obtain ⟨tail, hev, htail⟩ := arrive_reports
      ({ s with fade := (s.fade.poll now).1 }, [] ++ stepReports (pre ++ [step])) hnode
    refine Op.Reports.of_moves ([] ++ stepReports (pre ++ [step])) (tail ++ stepReports post)
      ?_ ?_ ?_ ?_ id ⟨_, by rw [h]⟩
    · rw [Op.events, Op.run, h]
      dsimp only
      rw [hev, arrive_current]
      simp
    · rw [Op.run, h]
      dsimp only
      rw [arrive_fade]
      have hwalk : stepReports (pre ++ [step]) ++ stepReports post =
          stepReports (s.fade.poll now).2 := by
        rw [hsteps, ← stepReports_append]
        simp
      simp only [List.nil_append, Phase.follow_append, Phase.follow_quiet htail, Option.bind_some]
      rw [← Phase.follow_append, hwalk]
      exact Sequencer.follow_poll s.fade now
    · simp [count_stepReports, count_quiet htail]
    · simp [filter_stepReports, filter_quiet htail]

/-- A continue that is refused reports nothing; one that resumes drops the fade and re-enters. -/
theorem reports_continueSaved (s : Session σ) :
    Op.continueSaved.Reports s (Op.continueSaved.events s) := by
  rcases continueSaved_run_cases (s, []) with ⟨hsame, hnot⟩ | ⟨r, hnode, h⟩
  · refine Op.Reports.of_quiet ?_ (by rw [Op.run, hsame]) ?_ ?_
    · rw [Op.events, hsame]
      simp
    · rintro ⟨u, hu⟩
      exact hnot u hu
    · rintro ⟨u, hu⟩
      exact hnot u hu
  · exact Op.Reports.of_reenter
      ({ s with fade := s.fade.cancel.1, progress := r.toProgress }, [] ++ cancelReports s.fade)
      (List.nil_append _) rfl (Graph.get?_isSome (ensureNode_eq_ok.1 hnode))
      (by rw [Op.run, h]; rfl) (by rw [Op.events, h]; rfl) ⟨_, by rw [h]⟩ ⟨_, by rw [h]⟩

/-- An import that fails reports nothing; one that succeeds drops the fade and re-enters. -/
theorem reports_importSave (s : Session σ) (json : String) :
    (Op.importSave json).Reports s ((Op.importSave json).events s) := by
  rcases importSave_run_cases (s, []) json with ⟨⟨st, hsame⟩, hnot⟩ | ⟨r, st, hnode, h⟩
  · refine Op.Reports.of_quiet ?_ (by rw [Op.run, hsame]) ?_ ?_
    · rw [Op.events, hsame]
      simp
    · rintro ⟨u, hu⟩
      exact hnot u hu
    · rintro ⟨u, hu⟩
      exact hnot u hu
  · exact Op.Reports.of_reenter
      ({ s with store := st, fade := s.fade.cancel.1, progress := r.toProgress },
        [] ++ cancelReports s.fade)
      (List.nil_append _) rfl (Graph.get?_isSome (ensureNode_eq_ok.1 hnode))
      (by rw [Op.run, h]; rfl) (by rw [Op.events, h]; rfl) ⟨_, by rw [h]⟩ ⟨_, by rw [h]⟩

/-- **What one operation reports.** On a consistent session, every operation's events walk the
fade on from the session's phase, report a dropped fade once exactly when a running fade is
dropped, and report entering exactly the node the operation puts the player on. -/
theorem reports_run {s : Session σ} (hs : s.course.Consistent) (o : Op) :
    o.Reports s (o.events s) := by
  cases o with
  | start =>
    exact Op.Reports.of_reenter
      ({ s with fade := s.fade.cancel.1, progress := Progress.start s.book.start },
        [] ++ cancelReports s.fade)
      (List.nil_append _) rfl (Graph.get?_isSome s.book.start_mem)
      (by rw [Op.run, start_run]) (by rw [Op.events, start_run]) trivial trivial
  | restart =>
    exact Op.Reports.of_reenter
      ({ s with fade := s.fade.cancel.1, progress := Progress.start s.book.start },
        [] ++ cancelReports s.fade)
      (List.nil_append _) rfl (Graph.get?_isSome s.book.start_mem)
      (by rw [Op.run, restart, start_run]) (by rw [Op.events, restart, start_run]) trivial trivial
  | loadBook b =>
    exact Op.Reports.of_reenter
      ({ s with book := b, fade := s.fade.cancel.1, progress := Progress.start b.start },
        [] ++ cancelReports s.fade)
      (List.nil_append _) rfl (Graph.get?_isSome b.start_mem)
      (by rw [Op.run, loadBook_run]) (by rw [Op.events, loadBook_run]) trivial trivial
  | select i now => exact reports_select s i now
  | tick now => exact reports_tick hs now
  | continueSaved => exact reports_continueSaved s
  | importSave json => exact reports_importSave s json
  | save =>
    refine Op.Reports.of_quiet ?_ (congrArg (fun c => c.fade.phase) (course_save (s, []))) id id
    simp [Op.events, save, current, update]
  | deleteSave =>
    refine Op.Reports.of_quiet ?_
      (congrArg (fun c => c.fade.phase) (course_deleteSave (s, []))) id id
    simp [Op.events, deleteSave, current, update]
  | prompt =>
    refine Op.Reports.of_quiet ?_ (by rw [Op.run, prompt_run']) id id
    rw [Op.events, prompt_run']
    exact hiddenReports_quiet s
  | visibleChoices =>
    refine Op.Reports.of_quiet ?_ (by rw [Op.run, (visibleChoices_run (s, [])).2]) id id
    rw [Op.events, visibleChoices_reports]
    exact hiddenReports_quiet s

/-! ## Whole runs -/

/-- The events of a run are those of its parts, each reported from where the part starts. -/
theorem eventsAlong_append (s : Session σ) (ops ops' : List Op) :
    eventsAlong s (ops ++ ops') = eventsAlong s ops ++ eventsAlong (exec ops s) ops' := by
  induction ops generalizing s with
  | nil => rfl
  | cons o ops ih =>
    rw [List.cons_append, eventsAlong, eventsAlong, ih, List.append_assoc]
    rfl

/-- **Following a whole run.** From a reachable session, the phase changes of any run walk on
from the session's phase to the phase the run leaves. -/
theorem follow_exec {s : Session σ} (hs : Reachable s) (ops : List Op) :
    Phase.follow s.fade.phase (eventsAlong s ops) = some (exec ops s).fade.phase := by
  -- induction on the operations; each one's events walk on from where the last left off
  induction ops generalizing s with
  | nil => simp [eventsAlong, exec]
  | cons o ops ih =>
    rw [eventsAlong, Phase.follow_append, (reports_run hs.consistent o).follows, Option.bind_some]
    exact ih (hs.step o)

end Novel.Play.Session

namespace Novel.Play

open Novel.Story Novel.Save Session

/-- **The event stream follows the session.** Building reports nothing of the fade or of a node
entered. Then, along any run of operations, the phase changes, in order, walk the cycle of a fade
from hidden, each starting where the one before it ended, except that a dropped fade returns to
hidden, and they end at the session's phase. The events of each operation of the run form one
segment of the stream, in which a dropped fade is reported at most once and exactly when a
running fade is dropped, and entering a node is reported once when the operation puts the
player on a node (naming that node, with the stage's scene after entering it) and never
otherwise. -/
theorem event_stream_follows_session {σ : Type} [Slots σ] {config : ConfigSource}
    {book : BookSource} {store : σ} {events : List Event} {s : Session σ}
    (hb : build config book store = (events, .ok s)) (ops : List Op) :
    (∀ e ∈ events, e.isQuiet = true) ∧
      Phase.follow .hidden (events ++ eventsAlong s ops) = some (exec ops s).fade.phase ∧
      ∀ pre o post, ops = pre ++ o :: post →
        eventsAlong s ops =
            eventsAlong s pre ++ o.events (exec pre s) ++ eventsAlong (o.run (exec pre s)) post ∧
          o.Reports (exec pre s) (o.events (exec pre s)) := by
  have hquiet : ∀ e ∈ events, e.isQuiet = true := by
    have h := build_quiet config book store
    rw [hb] at h
    exact h
  -- a session is built with no fade running
  obtain ⟨c, b, hs⟩ := build_eq hb
  have hhidden : s.fade.phase = .hidden := by rw [hs]; rfl
  have hreach : Reachable s := .built hb
  refine ⟨hquiet, ?_, fun pre o post hops => ⟨?_, reports_run (hreach.exec pre).consistent o⟩⟩
  · rw [Phase.follow_append, Phase.follow_quiet hquiet, Option.bind_some, ← hhidden]
    exact follow_exec hreach ops
  · rw [hops, eventsAlong_append, eventsAlong, List.append_assoc]

/-- In the sample, starting, choosing the door's fade, ticking through it, restarting in the
middle of a second fade and ticking on report a stream that ends hidden. -/
theorem sample_event_stream_follows :
    build .default (.loaded sampleBook) ({} : Store) = ([], .ok sampleSession) ∧
      Phase.follow .hidden ([] ++ eventsAlong sampleSession
          [.start, .select 0 0, .tick 600, .tick 1250, .restart, .select 0 2000, .restart,
            .tick 5000]) =
        some (exec [.start, .select 0 0, .tick 600, .tick 1250, .restart, .select 0 2000, .restart,
          .tick 5000] sampleSession).fade.phase :=
  have hb : build .default (.loaded sampleBook) ({} : Store) = ([], .ok sampleSession) := rfl
  ⟨hb, (event_stream_follows_session hb _).2.1⟩

/- Starting again while the screen is black drops the fade: the stream reports the drop and
returns to hidden before entering the start node again. -/
example : eventsAlong sampleSession [.start, .select 0 0, .tick 600, .start] =
    [.nodeEntered "door" 0, .phaseChanged .hidden .fadingOut, .phaseChanged .fadingOut .black,
      .nodeEntered "room" 0, .autosaved "room", .transitionCancelled, .nodeEntered "door" 0] := by
  decide +kernel

end Novel.Play
