import Novel.Proofs.SaveSlot

/-!
# Exporting and importing a save

The text a session exports is the record of its progress now. Importing that text into the same
session gives the progress back exactly, drops any fade, and leaves the record in the save slot.

Each step of the import passes for a reason of its own:

* the text reads back as the record, since the clock that stamped it shows a four-digit year;
* the record belongs to the sheet, since it was taken with the session's sheet id;
* its node is in the book, since the player of a reachable session stands on a node of the book;
* restoring it gives the progress itself, since the flags of a reachable session are already the
  set that a record makes of them.
-/

namespace Novel.Play.Session

open Novel.Story Novel.Save

/-- A session's own export passes the import's checks and reads back as its record. -/
theorem importFor_exportSave (s : Session Store) (ht : s.clock.WellFormed)
    (hyear : 0 ≤ s.clock.date.year ∧ s.clock.date.year ≤ 9999) :
    Record.importFor s.exportSave s.config.sheetId = .ok s.snapshot := by
  have hread : Record.ofJson s.exportSave = .ok s.snapshot :=
    Record.ofJson_toJson s.snapshot ht hyear
  rw [Record.importFor, hread, except_ok_bind]
  simp [snapshot, Record.capture]
  rfl

/-- Importing a session's own export, when its player stands on a node of the book, its flags
are in order and its clock shows a four-digit year: the import succeeds, the progress is as
before, the fade is dropped and the slot holds the exported record. -/
theorem importSave_exportSave {s : Session Store} (hmem : s.book.graph.contains s.progress.current)
    (hflags : s.progress.FlagsOrdered) (ht : s.clock.WellFormed)
    (hyear : 0 ≤ s.clock.date.year ∧ s.clock.date.year ≤ 9999) :
    ∃ u s' es,
      ((importSave s.exportSave : Act Store (Except PlayerProblem Update)).run (s, [])).run =
        (.ok u, s', es) ∧
      s'.progress = s.progress ∧ s'.fade.state = .idle ∧ s'.SlotHoldsProgress s.snapshot := by
  have hback : s.snapshot.toProgress = s.progress := Record.toProgress_capture hflags _ _
  obtain ⟨⟨u, hu⟩, hcourse, hledger⟩ :=
    importSave_written (s, []) (importFor_exportSave s ht hyear) (ensureNode_eq_ok.2 hmem)
  generalize
    ((importSave s.exportSave : Act Store (Except PlayerProblem Update)).run (s, [])).run = y
    at hu hcourse hledger ⊢
  have hprogress : y.2.1.progress = s.progress := by
    rw [← hback]
    exact congrArg Course.progress hcourse
  -- the slot holds the record, which is also the record of the progress after the import
  have hstore : y.2.1.store = s.store.put s.snapshot := congrArg Ledger.store hledger
  have hconfig : y.2.1.config = s.config := congrArg Ledger.config hledger
  have hclock : y.2.1.clock = s.clock := congrArg Ledger.clock hledger
  have hsnap : Record.capture y.2.1.config.sheetId y.2.1.progress y.2.1.clock = s.snapshot := by
    rw [hconfig, hprogress, hclock]
    rfl
  have hslot := slotHoldsProgress_capture y.2.1 (by rw [hsnap]; exact hstore)
    (by rw [hprogress]; exact hflags) (by rw [hclock]; exact ht) (by rw [hclock]; exact hyear)
  rw [hsnap] at hslot
  exact ⟨u, y.2.1, y.2.2, by rw [← hu], hprogress, congrArg (fun c => c.fade.state) hcourse, hslot⟩

/-- **Export then import is the identity on progress.** In every session a host can reach, with
the clock at any instant that shows a four-digit year: importing the session's own export
succeeds; afterwards the progress is the one exported, no fade runs (the phase is hidden, with
no pending target and no deadline), and the save slot holds the exported record. -/
theorem export_import_round_trip (s : Session Store) (hs : Reachable s) (t : Time.Instant)
    (ht : t.WellFormed) (hyear : 0 ≤ t.date.year ∧ t.date.year ≤ 9999) :
    ∃ u s' es, ((importSave ({ s with clock := t } : Session Store).exportSave :
        Act Store (Except PlayerProblem Update)).run ({ s with clock := t }, [])).run = (.ok u, s', es) ∧
      s'.progress = s.progress ∧ s'.fade.phase = .hidden ∧ s'.fade.pending = none ∧
      s'.fade.deadline = none ∧ s'.SlotHoldsProgress ({ s with clock := t } : Session Store).snapshot := by
  obtain ⟨u, s', es, hrun, hprogress, hidle, hslot⟩ :=
    @importSave_exportSave ({ s with clock := t } : Session Store) hs.consistent.current_mem
      hs.flagsOrdered ht hyear
  refine ⟨u, s', es, hrun, hprogress, ?_, ?_, ?_, hslot⟩
  · simp [Sequencer.phase, hidle, FadeState.phase]
  · simp [Sequencer.pending, hidle, FadeState.pending]
  · simp [Sequencer.deadline, hidle, FadeState.deadline]

/-- The sample session, with its clock in a leap second, imports its own export back. -/
theorem sample_export_imports :
    Reachable sampleSession ∧ (⟨10957, 86399, 1500000000⟩ : Time.Instant).WellFormed ∧
      (0 ≤ (⟨10957, 86399, 1500000000⟩ : Time.Instant).date.year ∧
        (⟨10957, 86399, 1500000000⟩ : Time.Instant).date.year ≤ 9999) ∧
      ∃ u s' es, ((importSave ({ sampleSession with clock := ⟨10957, 86399, 1500000000⟩ } :
          Session Store).exportSave : Act Store (Except PlayerProblem Update)).run
          ({ sampleSession with clock := ⟨10957, 86399, 1500000000⟩ }, [])).run = (.ok u, s', es) ∧
        s'.progress = sampleSession.progress ∧ s'.fade.phase = .hidden ∧ s'.fade.pending = none ∧
        s'.fade.deadline = none ∧
        s'.SlotHoldsProgress ({ sampleSession with clock := ⟨10957, 86399, 1500000000⟩ } :
          Session Store).snapshot :=
  ⟨sampleSession_reachable, by decide, by decide,
    export_import_round_trip sampleSession sampleSession_reachable _ (by decide) (by decide)⟩

end Novel.Play.Session
