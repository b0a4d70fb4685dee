import Novel.Proofs.ProgressRuns
import Novel.Proofs.RecordRoundTrip

/-!
# Save records lose nothing

A record is taken of a progress and gives a progress back; it is written as text and read back;
and importing checks that it belongs to the sheet. None of these steps loses anything:

* the record of a progress lists its flags strictly increasing, and restores the same node, the
  same history and the same set of flags. Flags form a set, kept in increasing order, so for a
  progress whose flags are so kept the restored progress is the progress itself;
* a record is a record of what it restores exactly when its flags are strictly increasing: the
  progress forgets only the order and the repeats of the list;
* the text of a record stamped at an instant a clock can show reads back as the record, and
  importing that text is the record when the sheet is the record's own, and names both sheets in
  the mismatch otherwise.
-/

namespace Novel.Play

theorem mem_flagSet {f : String} {fs : List String} : f ∈ flagSet fs ↔ f ∈ fs := by
  rw [flagSet, mem_foldl_insertFlag]
  simp

theorem flagSet_eq_self_iff {fs : List String} : flagSet fs = fs ↔ fs.Pairwise (· < ·) :=
  ⟨fun h => h ▸ flagSet_ordered fs, flagSet_of_ordered⟩

end Novel.Play

namespace Novel.Save

open Novel.Play Novel.Time

namespace Record

theorem capture_flags (sheetId : String) (p : Progress) (savedAt : Instant) :
    (capture sheetId p savedAt).flags = flagSet p.flags := rfl

theorem toProgress_flags (r : Record) : r.toProgress.flags = flagSet r.flags := rfl

/-- Taking a record of what a record restores, at its own sheet and instant, gives the record
back with its flags made a set. -/
theorem capture_toProgress (r : Record) :
    capture r.sheetId r.toProgress r.savedAt = { r with flags := flagSet r.flags } := by
  rw [capture, toProgress_flags, flagSet_of_ordered (flagSet_ordered r.flags)]
  rfl

/-- A record is the record of what it restores exactly when its flags are strictly
increasing. -/
theorem capture_toProgress_eq_self_iff (r : Record) :
    capture r.sheetId r.toProgress r.savedAt = r ↔ r.flags.Pairwise (· < ·) := by
  rw [capture_toProgress, ← flagSet_eq_self_iff]
  constructor
  · intro h
    exact congrArg Record.flags h
  · intro h
    rw [h]

/-- Importing a record's own text gives the record for its own sheet, and names both sheets for
any other. -/
theorem importFor_toJson (r : Record) (hwf : r.savedAt.WellFormed)
    (hin : r.savedAt.inRange = true) (expected : String) :
    importFor r.toJson expected =
      if expected = r.sheetId then .ok r else .error (.sheetMismatch expected r.sheetId) := by
  rw [importFor, ofJson_toJson_of_inRange r hwf hin, except_ok_bind]
  by_cases h : expected = r.sheetId
  · subst h
    rw [if_pos rfl, bne_self_eq_false]
    rfl
  · have hne : (r.sheetId != expected) = true := by
      simp only [bne_iff_ne, ne_eq]
      exact fun h' => h h'.symm
    rw [if_neg h, hne, if_pos rfl]
    rfl

end Record

/-- **Save records lose nothing.** For every progress `p`, sheet and instant, the record of `p`
lists its flags strictly increasing and restores `p`'s node, history and set of flags, so it
restores `p` itself when `p` keeps its flags in order. For every record `r` stamped at an
instant a clock can show (any four-digit year among them): `r` is the record of what it restores
exactly when its flags are strictly increasing, its text reads back as `r`, and importing that
text is `r` for `r`'s own sheet and a mismatch naming both sheets for any other. -/
theorem record_keeps_progress (sheetId : String) (p : Progress) (t : Instant) (r : Record)
    (hwf : r.savedAt.WellFormed) (hin : r.savedAt.inRange = true) :
    (Record.capture sheetId p t).flags.Pairwise (· < ·) ∧
      (Record.capture sheetId p t).toProgress.current = p.current ∧
      (Record.capture sheetId p t).toProgress.history = p.history ∧
      (∀ f, f ∈ (Record.capture sheetId p t).toProgress.flags ↔ f ∈ p.flags) ∧
      (p.FlagsOrdered → (Record.capture sheetId p t).toProgress = p) ∧
      (Record.capture r.sheetId r.toProgress r.savedAt = r ↔ r.flags.Pairwise (· < ·)) ∧
      Record.ofJson r.toJson = .ok r ∧
      ∀ expected, Record.importFor r.toJson expected =
        if expected = r.sheetId then .ok r else .error (.sheetMismatch expected r.sheetId) := by
  have hflags := Record.capture_flags sheetId p t
  refine ⟨hflags ▸ flagSet_ordered p.flags, rfl, rfl, fun f => ?_,
    fun hp => Record.toProgress_capture hp sheetId t, r.capture_toProgress_eq_self_iff,
    Record.ofJson_toJson_of_inRange r hwf hin, r.importFor_toJson hwf hin⟩
  -- the flags are made a set twice, once by the record and once by the progress it restores
  rw [Record.toProgress_flags, hflags, mem_flagSet, mem_flagSet]

/-- The record of the progress at `cave`, holding `torch` and `map`, restores that progress,
and its text, imported for another sheet, names both sheets. -/
theorem record_keeps_progress_cave :
    let p : Progress := { current := "cave", flags := ["map", "torch"], history := ["intro", "fork"] }
    Instant.epoch.WellFormed ∧ Instant.epoch.inRange = true ∧ p.FlagsOrdered ∧
      (Record.capture "sheet-1" p Instant.epoch).toProgress = p ∧
      Record.importFor (Record.capture "sheet-1" p Instant.epoch).toJson "sheet-2" =
        .error (.sheetMismatch "sheet-2" "sheet-1") := by
  intro p
  have hin : Instant.epoch.inRange = true := by decide
  have hordered : p.FlagsOrdered := by
    change ["map", "torch"].Pairwise (· < ·)
    decide
  have h := record_keeps_progress "sheet-1" p Instant.epoch (Record.capture "sheet-1" p Instant.epoch)
    Instant.epoch_wellFormed hin
  refine ⟨Instant.epoch_wellFormed, hin, hordered, h.2.2.2.2.1 hordered, ?_⟩
  rw [h.2.2.2.2.2.2.2 "sheet-2"]
  rfl

end Novel.Save
