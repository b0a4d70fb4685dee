import Novel.Proofs.Runs
import Novel.Web.Player

/-!
# Every reachable session is consistent

Whatever a host does to a session, in whatever order and however many calls fail:

* the player stands on a node of the book, so there is always a node to show;
* a fade has a pending target exactly while fading out, and a deadline exactly when it is not
  hidden (the fade's state carries both);
* the pending target was offered at the current node of the current book: the book's node of
  that id is the target, one of the current node's choices leads there, and the player holds
  the flags it requires.

The last part is the one that needs the operations. A fade begins only from a choice of the
prompt, and every operation that replaces the book or the progress (starting, restarting,
loading a book, resuming a save) drops the fade first, so a pending target never outlives the
position it was chosen from. It is stated on the course alone, which makes each operation's
case an equation of `SessionSteps` followed by a check.
-/

namespace Novel.Play.Session

open Novel.Story Novel.Save

namespace Course

def currentNode (c : Course) : Option Node := c.book.node? c.progress.current

/-- A pending target was offered at the current node: the book's node of that id is the target,
one of the current node's choices leads there, and the player holds every flag it requires. -/
def Offered (c : Course) (p : Pending) : Prop :=
  c.book.node? p.targetId = some p.target ∧
    (∃ n ch, c.currentNode = some n ∧ ch ∈ n.choices ∧ ch.target = p.targetId) ∧
    ∀ f ∈ p.target.required, f ∈ c.progress.flags

/-- What holds of the course of every reachable session. -/
structure Consistent (c : Course) : Prop where
  /-- The player stands on a node of the book. -/
  current_mem : c.book.graph.contains c.progress.current = true
  /-- A pending target was offered at the current node. -/
  pending_offered : ∀ p d, c.fade.state = .out p d → c.Offered p

/-- Putting the player at the start node of a book, with no fade running, is consistent. -/
theorem consistent_start (b : Book) (f : Sequencer) (hf : f.state = .idle) :
    Consistent ⟨b, Progress.start b.start, f⟩ where
  current_mem := b.start_mem
  pending_offered := by
    intro p d h
    rw [hf] at h
    cases h

/-- Restoring a progress whose node is in the book, with no fade running, is consistent. -/
theorem consistent_restore (b : Book) (g : Progress) (f : Sequencer)
    (hg : b.graph.contains g.current = true) (hf : f.state = .idle) :
    Consistent ⟨b, g, f⟩ where
  current_mem := hg
  pending_offered := by
    intro p d h
    rw [hf] at h
    cases h

end Course

variable {σ : Type}

theorem mapError_error {ε ε' α : Type} (f : ε → ε') (e : ε) :
    (Except.error e : Except ε α).mapError f = .error (f e) := rfl

theorem mapError_ok {ε ε' α : Type} (f : ε → ε') (a : α) :
    (Except.ok a : Except ε α).mapError f = .ok a := rfl

/-- A session as built stands at the start node of its book, with no fade running. -/
theorem consistent_build {config : ConfigSource} {book : BookSource} {store : σ}
    {events : List Event} {s : Session σ} (h : build config book store = (events, .ok s)) :
    s.course.Consistent := by
  cases hconfig : config.resolve with
  | error e => simp [build, hconfig] at h
  | ok c =>
    cases book with
    | loaded b =>
      simp only [build, hconfig, Prod.mk.injEq, Except.ok.injEq] at h
      obtain ⟨-, rfl⟩ := h
      exact Course.consistent_start b _ rfl
    | sheets story metadata =>
      cases hsheets : Book.ofSheets story metadata with
      | mk es r =>
        cases r with
        | error e => simp [build, hconfig, hsheets, mapError_error] at h
        | ok b =>
          simp only [build, hconfig, hsheets, mapError_ok, Prod.mk.injEq,
            Except.ok.injEq] at h
          obtain ⟨-, rfl⟩ := h
          exact Course.consistent_start b _ rfl
    | none => simp [build, hconfig] at h

/-- The target of an entry of the prompt, when the book has it, is offered at the current
node. -/
theorem offered_of_choiceAt {s : Session σ} {i : Nat} {c : Choice} {target : Node}
    (hch : s.choiceAt i = some c) (ht : s.book.node? c.target = some target) :
    s.course.Offered ⟨c.target, target⟩ := by
  obtain ⟨n, hn, hmem, hflags⟩ := choiceAt_offered hch
  exact ⟨ht, ⟨n, c, hn, hmem, rfl⟩, hflags target ht⟩

variable [Slots σ]

/-! ## Each operation keeps the invariant -/

/-- **Selecting keeps the invariant.** A fade starts only towards a choice of the current node
that the player's flags unlock, and a move goes to a node of the book. -/
theorem consistent_select {x : Session σ × List Event} (hc : x.1.course.Consistent)
    (i now : Nat) : ((select i now : Act σ Outcome).run x).run.2.1.course.Consistent := by
  rcases select_cases x i now with ⟨hsame, -⟩ | ⟨c, target, -, hch, ht, -, -, hsession⟩ |
    ⟨c, target, hidle, -, ht, -, -, hcourse⟩
  · rw [hsame]
    exact hc
  · rw [hsession]
    refine ⟨hc.current_mem, fun p d h => ?_⟩
    -- the only pending target is the one just chosen
    simp only [course, Sequencer.begin_state, FadeState.out.injEq] at h
    obtain ⟨rfl, -⟩ := h
    exact offered_of_choiceAt hch ht
  · rw [hcourse]
    have hst : x.1.fade.state = .idle := (Sequencer.idle_iff _).1 hidle
    refine ⟨Graph.contains_of_get? ht, fun p d h => ?_⟩
    simp only [course, hst] at h
    cases h

/-- **Ticking keeps the invariant.** A pending target that comes due is committed, and it was
offered from this book, so the player lands on a node of the book; a fade that is still fading
out after the poll was not due, and is the one that was offered. -/
theorem consistent_tick {x : Session σ × List Event} (hc : x.1.course.Consistent) (now : Nat) :
    ((tick now : Act σ (Option Update)).run x).run.2.1.course.Consistent := by
  have hstay : ∀ q e, (x.1.fade.poll now).1.state = .out q e →
      x.1.fade.state = .out q e ∧ now < e :=
    fun q e h => Sequencer.pollFrom_eq_out _ _ h
  cases hdue : x.1.fade.state.dueBy now with
  | none =>
    rw [course_tick_of_not_due x hdue]
    refine ⟨hc.current_mem, fun q e h => ?_⟩
    exact hc.pending_offered q e (hstay q e h).1
  | some p =>
    rw [course_tick_of_due x hdue]
    obtain ⟨d, hst, hd⟩ := FadeState.dueBy_eq_some hdue
    have hoff := hc.pending_offered p d hst
    refine ⟨Graph.contains_of_get? hoff.1, fun q e h => ?_⟩
    obtain ⟨h1, h2⟩ := hstay q e h
    rw [hst] at h1
    cases h1
    omega

/-- **Every operation keeps the invariant**, whether it succeeds or fails. -/
theorem consistent_run {s : Session σ} (hc : s.course.Consistent) (o : Op) :
    (o.run s).course.Consistent := by
  cases o with
  | start =>
    rw [Op.run, course_start]
    exact Course.consistent_start _ _ (Sequencer.cancel_state _)
  | restart =>
    rw [Op.run, course_restart]
    exact Course.consistent_start _ _ (Sequencer.cancel_state _)
  | loadBook b =>
    rw [Op.run, course_loadBook]
    exact Course.consistent_start _ _ (Sequencer.cancel_state _)
  | select i now => exact consistent_select hc i now
  | tick now => exact consistent_tick hc now
  | continueSaved =>
    rcases continueSaved_cases (s, []) with ⟨hsame, -⟩ | ⟨r, u, -, hmem, -, hcourse⟩
    · rw [Op.run, hsame]
      exact hc
    · rw [Op.run, hcourse]
      exact Course.consistent_restore _ _ _ hmem (Sequencer.cancel_state _)
  | importSave json =>
    rcases importSave_cases (s, []) json with ⟨hsame, -⟩ | ⟨r, u, -, hmem, -, hcourse⟩
    · rw [Op.run, hsame]
      exact hc
    · rw [Op.run, hcourse]
      exact Course.consistent_restore _ _ _ hmem (Sequencer.cancel_state _)
  | save => rw [Op.run, course_save]; exact hc
  | deleteSave => rw [Op.run, course_deleteSave]; exact hc
  | prompt => rw [Op.run, (prompt_run (s, [])).2]; exact hc
  | visibleChoices => rw [Op.run, (visibleChoices_run (s, [])).2]; exact hc

theorem Reachable.consistent {s : Session σ} (h : Reachable s) : s.course.Consistent := by
  induction h with
  | built hb => exact consistent_build hb
  | step o _ ih => exact consistent_run ih o
  | clock t _ _ _ ih => exact ih

end Novel.Play.Session

namespace Novel.Web

open Novel.Play Novel.Play.Session Novel.Save

/-- A web page shows the current node whenever the session stands on one. -/
theorem WebPlayer.view_ok {s : Session Store} (h : s.currentNode.isSome = true) :
    ∃ v, (WebPlayer.view ⟨s⟩).1 = .ok v := by
  obtain ⟨n, hn⟩ := Option.isSome_iff_exists.1 h
  obtain ⟨-, hsame⟩ := prompt_run (s, [])
  -- asking for the prompt leaves the session as it was
  rcases hrun : (Session.prompt : Act Store Prompt).run (s, []) with ⟨p, s', es'⟩
  rw [hrun] at hsame
  have hs' : s' = s := hsame
  subst hs'
  simp [WebPlayer.view, WebPlayer.run, hrun, hn]

end Novel.Web

namespace Novel.Play.Session

open Novel.Story Novel.Save

/-- **The reachable-state invariant.** In every session a host can reach, the player stands on a
node of the book; a fade has a pending target exactly while fading out, and that target is the
book's node of its id; a fade has a deadline exactly when it is not hidden. So a web page always
has a node to show. -/
theorem reachable_session_consistent :
    (∀ {σ : Type} [Slots σ] (s : Session σ), Reachable s →
      s.currentNode.isSome = true ∧
      (s.fade.pending.isSome = true ↔ s.fade.phase = .fadingOut) ∧
      (∀ p, s.fade.pending = some p → s.book.node? p.targetId = some p.target) ∧
      (s.fade.phase = .hidden ↔ s.fade.deadline = none)) ∧
    ∀ s : Session Store, Reachable s → ∃ v, (Web.WebPlayer.view ⟨s⟩).1 = .ok v := by
  have hnode : ∀ {σ : Type} [Slots σ] (s : Session σ), Reachable s →
      s.currentNode.isSome = true :=
    fun s hs => Graph.get?_isSome hs.consistent.current_mem
  refine ⟨fun s hs => ⟨hnode s hs, FadeState.pending_isSome_iff _, fun p hp => ?_,
    (FadeState.deadline_eq_none_iff _).symm⟩, fun s hs => Web.WebPlayer.view_ok (hnode s hs)⟩
  obtain ⟨d, hd⟩ := FadeState.pending_eq_some hp
  exact (hs.consistent.pending_offered p d hd).1

/-- The sample session after a fade towards its room has begun is consistent, and a web page
shows it. -/
theorem sample_fading_consistent :
    Reachable ((Op.select 0 0).run sampleSession) ∧
      ((Op.select 0 0).run sampleSession).currentNode.isSome = true ∧
      ∃ v, (Web.WebPlayer.view ⟨(Op.select 0 0).run sampleSession⟩).1 = .ok v :=
  have h := sampleSession_reachable.step (.select 0 0)
  ⟨h, (reachable_session_consistent.1 _ h).1, reachable_session_consistent.2 _ h⟩

end Novel.Play.Session
