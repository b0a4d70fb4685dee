import Novel.Proofs.Runs

/-!
# Refused operations change nothing

An operation that fails, or finds nothing to do, leaves the session as it was: only what it
reports differs. This holds because every such operation makes all its checks before its first
change.

* Importing a save reads the text, checks its sheet and checks that its node exists before it
  writes the store, and resuming checks the node again before it drops the fade. So an import
  refused by any check changes nothing. The one change it may leave is the store's own: a store
  that refuses the write may have done part of it. The memory store never refuses, and any store
  whose refused writes change nothing is left exactly as it was.
* Continuing reads the slot, which changes nothing, and resumes only a record whose node exists.
* Selecting checks that no fade runs, that the prompt has the entry and that its target exists,
  in that order, before it starts a fade or moves.
-/

namespace Novel.Play.Session

open Novel.Story Novel.Save

variable {σ : Type} [Slots σ]

/-- A store that refuses a write keeps what it held. -/
def RefusalKeepsStore (σ : Type) [Slots σ] : Prop :=
  ∀ (st : σ) (r : Record) (p : Save.Problem),
    (Slots.save st r).2 = .error p → (Slots.save st r).1 = st

theorem Store.refusalKeepsStore : RefusalKeepsStore Store := by
  intro st r p h
  cases h

/-- **A refused import changes nothing but, perhaps, the store**: it was refused before the
write, or the store refused the write and is as that write left it. -/
theorem importSave_refused {x : Session σ × List Event} {json : String} {e : PlayerProblem}
    (h : ((importSave json : Act σ _).run x).run.1 = .error e) :
    ((importSave json : Act σ _).run x).run.2.1 = x.1 ∨
      ∃ r p, (Slots.save x.1.store r).2 = .error p ∧
        ((importSave json : Act σ _).run x).run.2.1 =
          { x.1 with store := (Slots.save x.1.store r).1 } := by
  cases himport : Record.importFor json x.1.config.sheetId with
  | error p => left; simp [importSave, current, himport]
  | ok r =>
    cases hnode : x.1.ensureNode r.currentNodeId with
    | error e' => left; simp [importSave, current, himport, hnode]
    | ok _ =>
      cases hsave : (Slots.save x.1.store r).2 with
      | error p =>
        right
        exact ⟨r, p, hsave, by simp [importSave, current, update, himport, hnode, hsave]⟩
      | ok _ =>
        -- past the write, resuming makes the node check again on the same book, and succeeds
        have hnode' : ({ x.1 with store := (Slots.save x.1.store r).1 } : Session σ).ensureNode
            r.toProgress.current = .ok () := hnode
        obtain ⟨⟨u, hu⟩, -⟩ :=
          @resume_ok σ ({ x.1 with store := (Slots.save x.1.store r).1 }, x.2) _ hnode'
        simp [importSave, current, update, himport, hnode, hsave, hu] at h

/-- A continue that fails or finds the slot empty changes nothing. -/
theorem continueSaved_refused {x : Session σ × List Event}
    (h : (∃ e, ((continueSaved : Act σ _).run x).run.1 = .error e) ∨
      ((continueSaved : Act σ _).run x).run.1 = .ok none) :
    ((continueSaved : Act σ _).run x).run.2.1 = x.1 := by
  rcases continueSaved_cases x with ⟨hsame, -⟩ | ⟨r, u, -, -, hu, -⟩
  · exact hsame
  · rcases h with ⟨e, he⟩ | hnone
    · rw [hu] at he
      cases he
    · rw [hu] at hnone
      cases hnone

/-- A selection that is ignored, finds no entry or finds a dangling target changes nothing. -/
theorem select_refused {x : Session σ × List Event} {i now : Nat}
    (h : ((select i now : Act σ Outcome).run x).run.1 = .ignored ∨
      ((select i now : Act σ Outcome).run x).run.1 = .noSuchChoice ∨
      ((select i now : Act σ Outcome).run x).run.1 = .danglingTarget) :
    ((select i now : Act σ Outcome).run x).run.2.1 = x.1 := by
  rcases select_cases x i now with ⟨hsame, -⟩ | ⟨c, target, -, -, -, -, hres, -⟩ |
    ⟨c, target, -, -, -, -, ⟨u, hres⟩, -⟩
  · exact hsame
  · rw [hres] at h
    rcases h with h | h | h <;> cases h
  · rw [hres] at h
    rcases h with h | h | h <;> cases h

/-- **Refused operations leave the session intact.** From any session: an import that fails
leaves everything but the store as it was, and the store too when the store keeps what it held
on a refused write; a continue that fails or finds the slot empty, and a selection that is
ignored, finds no entry or finds a dangling target, leave the whole session as it was. -/
theorem refused_operations_keep_session (s : Session σ) :
    (∀ (json : String) (e : PlayerProblem),
      ((importSave json : Act σ _).run (s, [])).run.1 = .error e →
      { (Op.importSave json).run s with store := s.store } = s ∧
        (RefusalKeepsStore σ → (Op.importSave json).run s = s)) ∧
    (((∃ e, ((continueSaved : Act σ _).run (s, [])).run.1 = .error e) ∨
        ((continueSaved : Act σ _).run (s, [])).run.1 = .ok none) →
      Op.continueSaved.run s = s) ∧
    (∀ i now : Nat,
      (((select i now : Act σ Outcome).run (s, [])).run.1 = .ignored ∨
        ((select i now : Act σ Outcome).run (s, [])).run.1 = .noSuchChoice ∨
        ((select i now : Act σ Outcome).run (s, [])).run.1 = .danglingTarget) →
      (Op.select i now).run s = s) := by
  refine ⟨fun json e h => ?_, fun h => continueSaved_refused h, fun i now h => select_refused h⟩
  rcases importSave_refused h with hsame | ⟨r, p, hrefused, hafter⟩
  · rw [Op.run, hsame]
    exact ⟨rfl, fun _ => rfl⟩
  · rw [Op.run, hafter]
    -- only the store changed, and a store that keeps itself on refusal did not
    exact ⟨rfl, fun hkeep => by rw [hkeep _ _ _ hrefused]⟩

/-- In the sample, importing an empty text, continuing from the empty slot and asking for an
entry the prompt does not have change nothing. -/
theorem sample_refusals_keep_session :
    (Op.importSave "").run sampleSession = sampleSession ∧
      Op.continueSaved.run sampleSession = sampleSession ∧
      (Op.select 5 0).run sampleSession = sampleSession :=
  ⟨((refused_operations_keep_session sampleSession).1 "" _ rfl).2 Store.refusalKeepsStore,
    (refused_operations_keep_session sampleSession).2.1 (.inr rfl),
    (refused_operations_keep_session sampleSession).2.2 5 0 (.inr (.inl rfl))⟩

end Novel.Play.Session
