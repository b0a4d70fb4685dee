import Novel.Proofs.FlagSets
import Novel.Proofs.RecordRoundTrip

/-!
# What the save slot holds

A session saves into the slot of its sheet, in its store, stamping records with its clock. This
module follows those three through every operation.

* Playing never changes the configuration or the clock: only the host sets the clock, and no
  operation replaces the configuration. So the slot an operation writes is always the same one.
* The store changes only where a record is written or removed: an arrival at a fade or
  checkpoint node saves, and so do an explicit save and a successful import; deleting empties
  the slot. Everything else (entering a node, starting, restarting, loading a book, resuming,
  asking for the prompt) leaves it alone.
* The memory store keeps a record as its text, and reads the text back when asked. A record
  stamped by a clock that shows a four-digit year reads back whole, so the slot holds exactly the
  record written last.
-/

namespace Novel.Save

open Novel.Time

@[simp] theorem Store.slots_save (st : Store) (r : Record) : Slots.save st r = (st.put r, .ok ()) :=
  rfl

theorem Store.raw?_put (st : Store) (r : Record) :
    (st.put r).raw? (slotKey r.sheetId) = some r.toJson := by
  simp [Store.put, Store.insertRaw, Store.raw?]

theorem Store.get_put (st : Store) {r : Record} (hwf : r.savedAt.WellFormed)
    (hyear : 0 ≤ r.savedAt.date.year ∧ r.savedAt.date.year ≤ 9999) :
    (st.put r).get r.sheetId = .ok (some r) := by
  simp [Store.get, Store.raw?_put, Record.ofJson_toJson r hwf hyear, Except.map]

end Novel.Save

namespace Novel.Play.Session

open Novel.Story Novel.Save

variable {σ : Type}

/-- What decides where and what a session saves: the store, the configuration (whose sheet id
names the slot) and the clock that stamps records. -/
structure Ledger (σ : Type) where
  store : σ
  config : Config
  clock : Time.Instant

def ledger (s : Session σ) : Ledger σ := ⟨s.store, s.config, s.clock⟩

/-! ## Operations that do not save -/

/-- Entering the current node changes the stage and only the stage, and reports after what was
reported before. -/
theorem enterCurrent_run (x : Session σ × List Event) :
    ∃ u st es,
      ((enterCurrent : Act σ Update).run x).run = (u, { x.1 with stage := st }, x.2 ++ es) := by
  cases h : x.1.currentNode with
  | none => exact ⟨{}, x.1.stage, [], by simp [enterCurrent, current, h]⟩
  | some n =>
    exact ⟨(x.1.stage.enter n x.1.config.assetBase).2, (x.1.stage.enter n x.1.config.assetBase).1,
      [.nodeEntered n.id (x.1.stage.enter n x.1.config.assetBase).1.scene],
      by simp [enterCurrent, current, update, emit, h]⟩

theorem ledger_enterCurrent (x : Session σ × List Event) :
    ((enterCurrent : Act σ Update).run x).run.2.1.ledger = x.1.ledger := by
  obtain ⟨u, st, es, h⟩ := enterCurrent_run x
  rw [h]
  rfl

theorem ledger_reenter (x : Session σ × List Event) :
    ((reenter : Act σ Update).run x).run.2.1.ledger = x.1.ledger := by
  simp [reenter, current, update, ledger_enterCurrent]
  rfl

theorem ledger_start (x : Session σ × List Event) :
    ((start : Act σ Update).run x).run.2.1.ledger = x.1.ledger := by
  simp [start, update, ledger_reenter]
  rfl

theorem ledger_loadBook (x : Session σ × List Event) (b : Book) :
    ((loadBook b : Act σ Update).run x).run.2.1.ledger = x.1.ledger := by
  simp [loadBook, update, ledger_start]
  rfl

/-- Resuming, whether it succeeds or not, saves nothing. -/
theorem ledger_resume (x : Session σ × List Event) (p : Progress) :
    ((resume p : Act σ (Except PlayerProblem Update)).run x).run.2.1.ledger = x.1.ledger := by
  cases h : x.1.ensureNode p.current with
  | error e => rw [resume_error h]
  | ok u =>
    simp [resume, current, update, h, ledger_reenter]
    rfl

/-! ## Arriving -/

@[simp] theorem Progress.moveTo_current (p : Progress) (id : String) (target : Node) :
    (p.moveTo id target).current = id := rfl

variable [Slots σ]

/-- Saving on arrival writes the record of the progress now into the store, and changes nothing
else. -/
theorem autosave_session (x : Session σ × List Event) :
    ((autosave : Act σ Unit).run x).run.2.1 =
      { x.1 with store := (Slots.save x.1.store x.1.snapshot).1 } := by
  cases h : (Slots.save x.1.store x.1.snapshot).2 <;> simp [autosave, current, update, emit, h]

/-- Arriving moves the progress and enters the target; at a fade or checkpoint node it also
writes the record of the progress after the move. -/
theorem arrive_session (x : Session σ × List Event) (id : String) (target : Node) :
    ∃ st, ((arrive id target : Act σ Update).run x).run.2.1 =
      { x.1 with
        progress := x.1.progress.moveTo id target, stage := st,
        store := if target.transition.autosaves then
          (Slots.save x.1.store
            (Record.capture x.1.config.sheetId (x.1.progress.moveTo id target) x.1.clock)).1
          else x.1.store } := by
  obtain ⟨u, st, es, h⟩ :=
    enterCurrent_run ({ x.1 with progress := x.1.progress.moveTo id target }, x.2)
  cases ha : target.transition.autosaves
  · exact ⟨st, by simp [arrive, update, h, ha]⟩
  · exact ⟨st, by simp [arrive, update, h, ha, autosave_session, snapshot]⟩

/-- Selecting a cut or checkpoint target is arriving there, after the prompt's reports. -/
theorem select_arrive (x : Session σ × List Event) (i now : Nat) {c : Choice} {target : Node}
    (h : x.1.fade.idle = true) (hc : x.1.choiceAt i = some c)
    (ht : x.1.book.node? c.target = some target) (hf : target.transition ≠ .fade) :
    ∃ es, ((select i now : Act σ Outcome).run x).run.2 =
      ((arrive c.target target : Act σ Update).run (x.1, es)).run.2 := by
  obtain ⟨h1, h2⟩ := prompt_run x
  simp [choiceAt] at hc
  -- the prompt changes nothing but the reports
  obtain ⟨es, hp⟩ : ∃ es, ((prompt : Act σ Prompt).run x).run =
      (Prompt.classify x.1.offered x.1.config.unlabeled, x.1, es) := ⟨_, by rw [← h1, ← h2]⟩
  refine ⟨es, ?_⟩
  cases htr : target.transition with
  | fade => exact absurd htr hf
  | cut => simp [select, current, h, hp, hc, ht, htr]
  | checkpoint => simp [select, current, h, hp, hc, ht, htr]

/-! ## Ticking -/

theorem fireStep_quiet (x : Session σ × List Event) (entered : Option Update) {step : Step}
    (h : step.commit = none) :
    ((fireStep entered step : Act σ (Option Update)).run x).run =
      (entered, x.1, x.2 ++ [.phaseChanged step.before step.after]) := by
  simp [fireStep, h]

/-- Steps that commit nothing change nothing but the reports. -/
theorem foldlM_fireStep_quiet {steps : List Step} (h : steps.filterMap Step.commit = [])
    (entered : Option Update) (x : Session σ × List Event) :
    ∃ es, ((steps.foldlM fireStep entered : Act σ (Option Update)).run x).run =
      (entered, x.1, x.2 ++ es) := by
  induction steps generalizing x with
  | nil => exact ⟨[], by simp⟩
  | cons step steps ih =>
    rw [List.filterMap_eq_nil_iff] at h
    have hstep : step.commit = none := h step List.mem_cons_self
    obtain ⟨es, hes⟩ := ih (List.filterMap_eq_nil_iff.2 fun a ha => h a (List.mem_cons_of_mem _ ha))
      (x.1, x.2 ++ [.phaseChanged step.before step.after])
    refine ⟨.phaseChanged step.before step.after :: es, ?_⟩
    simp [List.foldlM_cons, fireStep_quiet x entered hstep, hes]

/-- A step that commits a target arrives there, after reporting itself. -/
theorem fireStep_commit (x : Session σ × List Event) (entered : Option Update) {step : Step}
    {p : Pending} (h : step.commit = some p) :
    ((fireStep entered step : Act σ (Option Update)).run x).run.2 =
      ((arrive p.targetId p.target : Act σ Update).run
        (x.1, x.2 ++ [.phaseChanged step.before step.after])).run.2 := by
  simp [fireStep, h]

/-- A tick with a pending target due arrives at it once; the steps before and after the commit
only report. -/
theorem tick_due (x : Session σ × List Event) {now : Nat} {p : Pending}
    (h : x.1.fade.state.dueBy now = some p) :
    ∃ es es', ((tick now : Act σ (Option Update)).run x).run.2 =
      (((arrive p.targetId p.target : Act σ Update).run
          ({ x.1 with fade := (x.1.fade.poll now).1 }, es)).run.2.1,
        ((arrive p.targetId p.target : Act σ Update).run
          ({ x.1 with fade := (x.1.fade.poll now).1 }, es)).run.2.2 ++ es') := by
  have hcommits := Sequencer.commits_poll x.1.fade now
  rw [h] at hcommits
  obtain ⟨pre, step, post, hsteps, hpre, hstep, hpost⟩ := List.filterMap_eq_cons_iff.1 hcommits
  have htick : ((tick now : Act σ (Option Update)).run x).run =
      (((x.1.fade.poll now).2.foldlM fireStep none : Act σ (Option Update)).run
        ({ x.1 with fade := (x.1.fade.poll now).1 }, x.2)).run := by
    simp [tick, current, update]
  -- the steps before the commit only report, and so do those after it
  obtain ⟨es, hes⟩ := foldlM_fireStep_quiet (List.filterMap_eq_nil_iff.2 hpre) none
    ({ x.1 with fade := (x.1.fade.poll now).1 }, x.2)
  have hfire := fireStep_commit ({ x.1 with fade := (x.1.fade.poll now).1 }, x.2 ++ es) none hstep
  obtain ⟨es', hes'⟩ := foldlM_fireStep_quiet hpost
    ((fireStep none step : Act σ (Option Update)).run
      ({ x.1 with fade := (x.1.fade.poll now).1 }, x.2 ++ es)).run.1
    ((fireStep none step : Act σ (Option Update)).run
      ({ x.1 with fade := (x.1.fade.poll now).1 }, x.2 ++ es)).run.2
  refine ⟨x.2 ++ es ++ [.phaseChanged step.before step.after], es', ?_⟩
  rw [htick, hsteps, List.foldlM_append]
  simp only at hes' hfire
  simp only [List.foldlM_cons, StateT.run_bind, Id.run_bind, hes]
  rw [hes', hfire]

/-- A tick with nothing due only advances the fade, and reports its steps. -/
theorem tick_quiet (x : Session σ × List Event) {now : Nat} (h : x.1.fade.state.dueBy now = none) :
    ∃ es, ((tick now : Act σ (Option Update)).run x).run.2 =
      ({ x.1 with fade := (x.1.fade.poll now).1 }, x.2 ++ es) := by
  have hcommits := Sequencer.commits_poll x.1.fade now
  rw [h] at hcommits
  obtain ⟨es, hes⟩ := foldlM_fireStep_quiet hcommits none
    ({ x.1 with fade := (x.1.fade.poll now).1 }, x.2)
  refine ⟨es, ?_⟩
  simp only at hes
  simp [tick, current, update, hes]

/-! ## Resuming, saving, importing -/

theorem ledger_continueSaved (x : Session σ × List Event) :
    ((continueSaved : Act σ _).run x).run.2.1.ledger = x.1.ledger := by
  cases hload : Slots.load x.1.store x.1.config.sheetId with
  | error p => simp [continueSaved, current, hload]
  | ok r? =>
    cases r? with
    | none => simp [continueSaved, current, hload]
    | some r => simp [continueSaved, current, hload, ledger_resume]

/-- A successful import writes the record into the store and resumes it. -/
theorem importSave_ok (x : Session σ × List Event) {json : String} {r : Record} {st : σ}
    (himport : Record.importFor json x.1.config.sheetId = .ok r)
    (hnode : x.1.ensureNode r.currentNodeId = .ok ())
    (hsave : Slots.save x.1.store r = (st, .ok ())) :
    ((importSave json : Act σ _).run x).run =
      ((resume r.toProgress : Act σ (Except PlayerProblem Update)).run
        ({ x.1 with store := st }, x.2)).run := by
  simp [importSave, current, update, himport, hnode, hsave]

theorem ledger_save (x : Session σ × List Event) :
    ((save : Act σ (Except PlayerProblem Unit)).run x).run.2.1.ledger =
      { x.1.ledger with store := (Slots.save x.1.store x.1.snapshot).1 } := by
  simp [save, current, update]
  rfl

theorem ledger_deleteSave (x : Session σ × List Event) :
    ((deleteSave : Act σ (Except PlayerProblem Unit)).run x).run.2.1.ledger =
      { x.1.ledger with store := (Slots.delete x.1.store x.1.config.sheetId).1 } := by
  simp [deleteSave, current, update]
  rfl

/-- An import writes nothing, or writes the record it read into the store; either way it keeps
the configuration and the clock. -/
theorem ledger_importSave (x : Session σ × List Event) (json : String) :
    ((importSave json : Act σ _).run x).run.2.1.ledger = x.1.ledger ∨
      ∃ r, Record.importFor json x.1.config.sheetId = .ok r ∧
        ((importSave json : Act σ _).run x).run.2.1.ledger =
          { x.1.ledger with store := (Slots.save x.1.store r).1 } := by
  cases himport : Record.importFor json x.1.config.sheetId with
  | error p => left; simp [importSave, current, himport]
  | ok r =>
    cases hnode : x.1.ensureNode r.currentNodeId with
    | error e => left; simp [importSave, current, himport, hnode]
    | ok _ =>
      right
      refine ⟨r, rfl, ?_⟩
      cases hsave : (Slots.save x.1.store r).2 with
      | error p => simp [importSave, current, update, himport, hnode, hsave]; rfl
      | ok _ =>
        have hsave' : Slots.save x.1.store r = ((Slots.save x.1.store r).1, .ok ()) := by
          rw [← hsave]
        rw [importSave_ok x himport hnode hsave', ledger_resume]
        rfl

/-- A selection writes nothing, unless it moves to a checkpoint, where it writes the record of
the progress after the move. -/
theorem ledger_select (x : Session σ × List Event) (i now : Nat) :
    ((select i now : Act σ Outcome).run x).run.2.1.ledger = x.1.ledger ∨
      ∃ c target, x.1.fade.idle = true ∧ x.1.choiceAt i = some c ∧
        x.1.book.node? c.target = some target ∧ target.transition = .checkpoint ∧
        ((select i now : Act σ Outcome).run x).run.2.1.ledger =
          { x.1.ledger with
            store := (Slots.save x.1.store (Record.capture x.1.config.sheetId
              (x.1.progress.moveTo c.target target) x.1.clock)).1 } := by
  rcases select_cases x i now with ⟨hsame, -⟩ | ⟨c, target, -, -, -, -, -, hsession⟩ |
    ⟨c, target, hidle, hch, ht, hf, -, -⟩
  · exact .inl (by rw [hsame])
  · exact .inl (by rw [hsession]; rfl)
  · obtain ⟨es, hsel⟩ := select_arrive x i now hidle hch ht hf
    obtain ⟨st, harrive⟩ := arrive_session (x.1, es) c.target target
    rw [hsel, harrive]
    cases htr : target.transition with
    | fade => exact absurd htr hf
    | cut => exact .inl (by simp [Transition.autosaves]; rfl)
    | checkpoint =>
      exact .inr ⟨c, target, hidle, hch, ht, htr, by simp [Transition.autosaves]; rfl⟩

/-- A tick writes nothing, unless it commits a target that saves on arrival, where it writes the
record of the progress after the move. -/
theorem ledger_tick (x : Session σ × List Event) (now : Nat) :
    ((tick now : Act σ (Option Update)).run x).run.2.1.ledger = x.1.ledger ∨
      ∃ p, x.1.fade.state.dueBy now = some p ∧ p.target.transition.autosaves = true ∧
        ((tick now : Act σ (Option Update)).run x).run.2.1.ledger =
          { x.1.ledger with store := (Slots.save x.1.store
            (Record.capture x.1.config.sheetId (x.1.progress.moveTo p.targetId p.target)
              x.1.clock)).1 } := by
  cases hdue : x.1.fade.state.dueBy now with
  | none =>
    obtain ⟨es, htick⟩ := tick_quiet x hdue
    exact .inl (by rw [htick]; rfl)
  | some p =>
    obtain ⟨es, es', htick⟩ := tick_due x hdue
    obtain ⟨st, harrive⟩ := arrive_session ({ x.1 with fade := (x.1.fade.poll now).1 }, es)
      p.targetId p.target
    rw [htick]
    simp only [harrive]
    cases ha : p.target.transition.autosaves with
    | false => exact .inl (by simp; rfl)
    | true => exact .inr ⟨p, rfl, ha, by simp; rfl⟩

/-- **Playing keeps the configuration and the clock**: every operation, whatever it does to the
store, leaves them as they were. -/
theorem config_clock_run (s : Session σ) (o : Op) :
    (o.run s).config = s.config ∧ (o.run s).clock = s.clock := by
  -- each operation leaves the ledger alone or changes only its store
  have hkeep : ∀ y : Session σ,
      (y.ledger = s.ledger ∨ ∃ st, y.ledger = { s.ledger with store := st }) →
      y.config = s.config ∧ y.clock = s.clock := by
    rintro y (h | ⟨st, h⟩) <;> simp only [ledger, Ledger.mk.injEq] at h <;> exact ⟨h.2.1, h.2.2⟩
  apply hkeep
  cases o with
  | start => exact .inl (ledger_start (s, []))
  | restart => exact .inl (ledger_start (s, []))
  | loadBook b => exact .inl (ledger_loadBook (s, []) b)
  | select i now =>
    rcases ledger_select (s, []) i now with h | ⟨_, _, _, _, _, _, h⟩
    · exact .inl h
    · exact .inr ⟨_, h⟩
  | tick now =>
    rcases ledger_tick (s, []) now with h | ⟨_, _, _, h⟩
    · exact .inl h
    · exact .inr ⟨_, h⟩
  | continueSaved => exact .inl (ledger_continueSaved (s, []))
  | importSave json =>
    rcases ledger_importSave (s, []) json with h | ⟨_, _, h⟩
    · exact .inl h
    · exact .inr ⟨_, h⟩
  | save => exact .inr ⟨_, ledger_save (s, [])⟩
  | deleteSave => exact .inr ⟨_, ledger_deleteSave (s, [])⟩
  | prompt => exact .inl (by rw [Op.run, (prompt_run (s, [])).2])
  | visibleChoices => exact .inl (by rw [Op.run, (visibleChoices_run (s, [])).2])

/-- **Every reachable session stamps its records with an instant that reads back**: well
formed, with a four-digit year. A session is built with the epoch, playing never moves the
clock, and the host moves it only to such instants. -/
theorem Reachable.clock_readable {s : Session σ} (h : Reachable s) :
    s.clock.WellFormed ∧ 0 ≤ s.clock.date.year ∧ s.clock.date.year ≤ 9999 := by
  induction h with
  | built hb =>
    obtain ⟨c, b, rfl⟩ := build_eq hb
    -- a built session stamps with the epoch, in 1970
    show Time.Instant.epoch.WellFormed ∧ 0 ≤ Time.Instant.epoch.date.year ∧
      Time.Instant.epoch.date.year ≤ 9999
    exact ⟨Time.Instant.epoch_wellFormed, by decide⟩
  | step o _ ih => rw [(config_clock_run _ o).2]; exact ih
  | clock t hwf hyear _ _ => exact ⟨hwf, hyear⟩

/-! ## The memory store -/

/-- The save slot of the session's sheet holds `r`, the record of the progress as it is now: its
text is stored under the slot's key, it reads back whole, it belongs to the sheet, and it
restores the progress. -/
def SlotHoldsProgress (s : Session Store) (r : Record) : Prop :=
  s.store.raw? (slotKey s.config.sheetId) = some r.toJson ∧ s.saved = .ok (some r) ∧
    r.sheetId = s.config.sheetId ∧ r.toProgress = s.progress

/-- A record of the progress, stamped by a clock that shows a four-digit year and written last
into the memory store, is what the slot holds. -/
theorem slotHoldsProgress_capture (s : Session Store) {st : Store} (hstore : s.store = st.put
    (Record.capture s.config.sheetId s.progress s.clock)) (hflags : s.progress.FlagsOrdered)
    (hwf : s.clock.WellFormed) (hyear : 0 ≤ s.clock.date.year ∧ s.clock.date.year ≤ 9999) :
    s.SlotHoldsProgress (Record.capture s.config.sheetId s.progress s.clock) := by
  refine ⟨?_, ?_, rfl, Record.toProgress_capture hflags _ _⟩
  · rw [hstore]
    exact Store.raw?_put st _
  · show ((Slots.load s.store s.config.sheetId).mapError PlayerProblem.save) = _
    rw [hstore]
    show ((st.put _).get s.config.sheetId).mapError PlayerProblem.save = _
    exact congrArg (Except.mapError PlayerProblem.save)
      (@Store.get_put st (Record.capture s.config.sheetId s.progress s.clock) hwf hyear)

/-- Saving on arrival into the memory store always succeeds, and reports the node saved at. -/
theorem autosave_run (x : Session Store × List Event) :
    ((autosave : Act Store Unit).run x).run =
      ((), { x.1 with store := x.1.store.put x.1.snapshot },
        x.2 ++ [.autosaved x.1.progress.current]) := by
  simp only [autosave, current, update, emit, Store.slots_save]
  rfl

/-- Arriving reports after what was reported before; at a node that saves on arrival the memory
store takes the record, and the arrival reports the save with the node's id. -/
theorem arrive_events (x : Session Store × List Event) (id : String) (target : Node) :
    ∃ es, ((arrive id target : Act Store Update).run x).run.2.2 = x.2 ++ es ∧
      (target.transition.autosaves = true → Event.autosaved id ∈ es) := by
  obtain ⟨u, st, es, h⟩ :=
    enterCurrent_run ({ x.1 with progress := x.1.progress.moveTo id target }, x.2)
  cases ha : target.transition.autosaves
  · exact ⟨es, by simp [arrive, update, h, ha], fun h => by cases h⟩
  · refine ⟨es ++ [.autosaved id], ?_, fun _ => by simp⟩
    simp [arrive, update, h, ha, autosave_run, Progress.moveTo_current]

/-- **Arriving at a node that saves on arrival fills the slot**: afterwards the slot holds the
record of the progress after the move, and the arrival reports the save. -/
theorem arrive_slot (x : Session Store × List Event) {id : String} {target : Node}
    (ha : target.transition.autosaves = true) (hflags : x.1.progress.FlagsOrdered)
    (hwf : x.1.clock.WellFormed) (hyear : 0 ≤ x.1.clock.date.year ∧ x.1.clock.date.year ≤ 9999) :
    ((arrive id target : Act Store Update).run x).run.2.1.progress = x.1.progress.moveTo id target ∧
      (∃ r, ((arrive id target : Act Store Update).run x).run.2.1.SlotHoldsProgress r) ∧
      Event.autosaved id ∈ ((arrive id target : Act Store Update).run x).run.2.2 := by
  obtain ⟨st, hsession⟩ := arrive_session x id target
  obtain ⟨es, hes, haut⟩ := arrive_events x id target
  rw [ha, if_pos rfl] at hsession
  refine ⟨by rw [hsession],
    ⟨Record.capture x.1.config.sheetId (x.1.progress.moveTo id target) x.1.clock, ?_⟩,
    by rw [hes]; exact List.mem_append_right _ (haut ha)⟩
  rw [hsession]
  exact slotHoldsProgress_capture _ rfl (Progress.moveTo_flagsOrdered hflags id target) hwf hyear

/-- An import into the memory store that reads a record of the sheet whose node is in the book
succeeds: it writes the record, restores its progress with the fade dropped, and keeps the
configuration and the clock. -/
theorem importSave_written (x : Session Store × List Event) {json : String} {r : Record}
    (himport : Record.importFor json x.1.config.sheetId = .ok r)
    (hnode : x.1.ensureNode r.currentNodeId = .ok ()) :
    (∃ u, ((importSave json : Act Store _).run x).run.1 = .ok u) ∧
      ((importSave json : Act Store _).run x).run.2.1.course =
        { x.1.course with progress := r.toProgress, fade := x.1.fade.cancel.1 } ∧
      ((importSave json : Act Store _).run x).run.2.1.ledger =
        { x.1.ledger with store := x.1.store.put r } := by
  rw [importSave_ok x himport hnode (Store.slots_save x.1.store r)]
  -- the write keeps the book, so resuming finds the node again
  have hnode' : ({ x.1 with store := x.1.store.put r } : Session Store).ensureNode
      r.toProgress.current = .ok () := hnode
  obtain ⟨hok, hcourse⟩ := @resume_ok Store ({ x.1 with store := x.1.store.put r }, x.2) _ hnode'
  exact ⟨hok, hcourse, ledger_resume _ _⟩

/-- An import into the memory store writes nothing, or succeeds and writes the record it read. -/
theorem importSave_store (x : Session Store × List Event) (json : String) :
    ((importSave json : Act Store _).run x).run.2.1.store = x.1.store ∨
      ∃ r u, Record.importFor json x.1.config.sheetId = .ok r ∧
        ((importSave json : Act Store _).run x).run.1 = .ok u ∧
        ((importSave json : Act Store _).run x).run.2.1.store = x.1.store.put r := by
  cases himport : Record.importFor json x.1.config.sheetId with
  | error p => left; simp [importSave, current, himport]
  | ok r =>
    cases hnode : x.1.ensureNode r.currentNodeId with
    | error e => left; simp [importSave, current, himport, hnode]
    | ok _ =>
      obtain ⟨⟨u, hu⟩, -, hledger⟩ := importSave_written x himport hnode
      exact .inr ⟨r, u, rfl, hu, congrArg Ledger.store hledger⟩

/-- A checkpoint selection fills the slot with the record of the progress after the move, and
reports it. -/
theorem select_slot {s : Session Store} (hs : Reachable s) {i now : Nat} {c : Choice}
    {target : Node} (hidle : s.fade.idle = true) (hch : s.choiceAt i = some c)
    (ht : s.book.node? c.target = some target) (hcp : target.transition = .checkpoint) :
    ((select i now : Act Store Outcome).run (s, [])).run.2.1.progress =
        s.progress.moveTo c.target target ∧
      (∃ r, ((select i now : Act Store Outcome).run (s, [])).run.2.1.SlotHoldsProgress r) ∧
      Event.autosaved c.target ∈ ((select i now : Act Store Outcome).run (s, [])).run.2.2 := by
  have hf : target.transition ≠ .fade := by rw [hcp]; exact Transition.noConfusion
  obtain ⟨es, hsel⟩ := select_arrive (s, []) i now hidle hch ht hf
  obtain ⟨hwf, hyear⟩ := hs.clock_readable
  rw [hsel]
  exact arrive_slot (s, es) (by rw [hcp]; rfl) hs.flagsOrdered hwf hyear

/-- A tick that commits a target saving on arrival fills the slot with the record of the progress
after the move, and reports it; the steps after the commit change neither. -/
theorem tick_slot {s : Session Store} (hs : Reachable s) {now : Nat} {p : Pending}
    (hdue : s.fade.state.dueBy now = some p) (ha : p.target.transition.autosaves = true) :
    ((tick now : Act Store (Option Update)).run (s, [])).run.2.1.progress =
        s.progress.moveTo p.targetId p.target ∧
      (∃ r, ((tick now : Act Store (Option Update)).run (s, [])).run.2.1.SlotHoldsProgress r) ∧
      Event.autosaved p.targetId ∈
        ((tick now : Act Store (Option Update)).run (s, [])).run.2.2 := by
  obtain ⟨es, es', htick⟩ := tick_due (s, []) hdue
  obtain ⟨hwf, hyear⟩ := hs.clock_readable
  obtain ⟨hprogress, hslot, hevent⟩ :=
    arrive_slot ({ s with fade := (s.fade.poll now).1 }, es) ha hs.flagsOrdered hwf hyear
  rw [htick]
  exact ⟨hprogress, hslot, List.mem_append_left _ hevent⟩

/-- The store after one operation on a memory store: untouched, or written by a save, a delete,
a successful import, a move to a checkpoint, or a tick that commits a target saving on
arrival. -/
theorem store_run (s : Session Store) (o : Op) :
    (o.run s).store = s.store ∨ o = .save ∨ o = .deleteSave ∨
      (∃ json r, o = .importSave json ∧
        (∃ u, ((importSave json : Act Store _).run (s, [])).run.1 = .ok u) ∧
        (o.run s).store = s.store.put r) ∨
      (∃ i now c target, o = .select i now ∧ s.fade.idle = true ∧ s.choiceAt i = some c ∧
        s.book.node? c.target = some target ∧ target.transition = .checkpoint) ∨
      (∃ now p, o = .tick now ∧ s.fade.state.dueBy now = some p ∧
        p.target.transition.autosaves = true) := by
  cases o with
  | start => exact .inl (congrArg Ledger.store (ledger_start (s, [])))
  | restart => exact .inl (congrArg Ledger.store (ledger_start (s, [])))
  | loadBook b => exact .inl (congrArg Ledger.store (ledger_loadBook (s, []) b))
  | select i now =>
    rcases ledger_select (s, []) i now with h | ⟨c, target, hidle, hch, ht, hcp, -⟩
    · exact .inl (congrArg Ledger.store h)
    · exact .inr (.inr (.inr (.inr (.inl ⟨i, now, c, target, rfl, hidle, hch, ht, hcp⟩))))
  | tick now =>
    rcases ledger_tick (s, []) now with h | ⟨p, hdue, ha, -⟩
    · exact .inl (congrArg Ledger.store h)
    · exact .inr (.inr (.inr (.inr (.inr ⟨now, p, rfl, hdue, ha⟩))))
  | continueSaved => exact .inl (congrArg Ledger.store (ledger_continueSaved (s, [])))
  | importSave json =>
    rcases importSave_store (s, []) json with h | ⟨r, u, -, hu, h⟩
    · exact .inl h
    · exact .inr (.inr (.inr (.inl ⟨json, r, rfl, ⟨u, hu⟩, h⟩)))
  | save => exact .inr (.inl rfl)
  | deleteSave => exact .inr (.inr (.inl rfl))
  | prompt => exact .inl (by rw [Op.run, (prompt_run (s, [])).2])
  | visibleChoices => exact .inl (by rw [Op.run, (visibleChoices_run (s, [])).2])

/-- **What the save slot holds.** In every session a host can reach, with the memory store:

* right after a move to a checkpoint, the slot holds a record of the sheet that restores the
  progress after the move, and the move reports the save with the node's id;
* right after a tick that commits a target saving on arrival, the same holds of the target;
* any operation leaves the store untouched unless it is a save, a delete, a successful import,
  a move to a checkpoint or such a commit. So starting, restarting, loading a book, continuing,
  moving to a cut node and ticking without a commit keep the last record written. -/
theorem autosave_discipline :
    (∀ s : Session Store, Reachable s → ∀ (i now : Nat) (c : Choice) (target : Node),
      s.fade.idle = true → s.choiceAt i = some c → s.book.node? c.target = some target →
      target.transition = .checkpoint →
      (∃ u, ((select i now : Act Store Outcome).run (s, [])).run.1 = .navigated u) ∧
        ((select i now : Act Store Outcome).run (s, [])).run.2.1.progress =
          s.progress.moveTo c.target target ∧
        (∃ r, ((select i now : Act Store Outcome).run (s, [])).run.2.1.SlotHoldsProgress r) ∧
        Event.autosaved c.target ∈ ((select i now : Act Store Outcome).run (s, [])).run.2.2) ∧
    (∀ s : Session Store, Reachable s → ∀ (now : Nat) (p : Pending),
      s.fade.state.dueBy now = some p → p.target.transition.autosaves = true →
      ((tick now : Act Store (Option Update)).run (s, [])).run.2.1.progress =
          s.progress.moveTo p.targetId p.target ∧
        (∃ r, ((tick now : Act Store (Option Update)).run (s, [])).run.2.1.SlotHoldsProgress r) ∧
        Event.autosaved p.targetId ∈ ((tick now : Act Store (Option Update)).run (s, [])).run.2.2) ∧
    (∀ (s : Session Store) (o : Op),
      (o.run s).store = s.store ∨ o = .save ∨ o = .deleteSave ∨
        (∃ json r, o = .importSave json ∧
          (∃ u, ((importSave json : Act Store _).run (s, [])).run.1 = .ok u) ∧
          (o.run s).store = s.store.put r) ∨
        (∃ i now c target, o = .select i now ∧ s.fade.idle = true ∧ s.choiceAt i = some c ∧
          s.book.node? c.target = some target ∧ target.transition = .checkpoint) ∨
        (∃ now p, o = .tick now ∧ s.fade.state.dueBy now = some p ∧
          p.target.transition.autosaves = true)) := by
  refine ⟨fun s hs i now c target hidle hch ht hcp => ?_,
    fun s hs now p hdue ha => tick_slot hs hdue ha, store_run⟩
  have hf : target.transition ≠ .fade := by rw [hcp]; exact Transition.noConfusion
  exact ⟨(select_move (s, []) i now hidle hch ht hf).1, select_slot hs hidle hch ht hcp⟩

/-- In the sample, the tick that ends the fade into the room saves there. -/
theorem sample_fade_commit_autosaves :
    ((Op.select 0 0).run sampleSession).fade.state.dueBy 600 =
        some ⟨"room", { id := "room", transition := .fade }⟩ ∧
      ({ id := "room", transition := .fade } : Node).transition.autosaves = true ∧
      ((tick 600 : Act Store (Option Update)).run ((Op.select 0 0).run sampleSession, [])).run.2.1.progress =
        ((Op.select 0 0).run sampleSession).progress.moveTo "room" { id := "room", transition := .fade } ∧
      (∃ r, ((tick 600 : Act Store (Option Update)).run
        ((Op.select 0 0).run sampleSession, [])).run.2.1.SlotHoldsProgress r) ∧
      Event.autosaved "room" ∈
        ((tick 600 : Act Store (Option Update)).run ((Op.select 0 0).run sampleSession, [])).run.2.2 := by
  have hdue : ((Op.select 0 0).run sampleSession).fade.state.dueBy 600 =
      some ⟨"room", { id := "room", transition := .fade }⟩ := by
    rfl
  exact ⟨hdue, rfl,
    autosave_discipline.2.1 _ (sampleSession_reachable.step (.select 0 0)) 600 _ hdue rfl⟩

end Novel.Play.Session
