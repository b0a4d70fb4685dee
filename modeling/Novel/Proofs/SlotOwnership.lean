import Novel.Terminal.Shelf
import Novel.Proofs.RecordRoundTrip
import Novel.Proofs.OperationRuns

/-!
# Whose record a save slot holds

A store keeps one slot per sheet, and a session continues from the slot of its own sheet. Two
things decide whether the record found there belongs to that sheet.

* Continuing resumes the record the slot loads whenever its node is in the book
  (`continueSaved_resumes_slot_record`). Unlike importing, it never compares the record's sheet
  id with the session's, so it trusts the store: a text put under the slot's key from outside
  the player hands another sheet's record over (`continueSaved_resumes_foreign_record`).
* The terminal program keeps a slot in a file named after the slot key, with every character
  other than an ASCII letter, digit or `-` written as `_`. Two sheets share a file exactly when
  their ids agree after that replacement (`saveFileName_eq_iff`), so `a.b` and `a_b` share one
  and each sees the other's save (`saveFileName_collides`).
-/

namespace Novel.Terminal

open Novel.Save

/-- The character a save file's name shows for a character of the slot key. -/
def nameChar (c : Char) : Char := if keepsInName c then c else '_'

theorem saveFileName_eq (sheetId : String) :
    saveFileName sheetId = String.ofList ((slotKey sheetId).toList.map nameChar) ++ ".json" :=
  rfl

/-- **Two sheets share a save file exactly when their ids agree once every character other than
an ASCII letter, digit or `-` is written as `_`.** The key prefix and the `.json` ending are the
same for every sheet, so only the ids' characters, after the replacement, tell the files
apart. -/
theorem saveFileName_eq_iff (a b : String) :
    saveFileName a = saveFileName b ↔ a.toList.map nameChar = b.toList.map nameChar := by
  rw [saveFileName_eq, saveFileName_eq, ← String.toList_inj]
  simp [slotKey, String.toList_append, String.toList_ofList]

/-- Sheets `a.b` and `a_b` share one file: on every shelf each sees, and loads, what the other
saved. -/
theorem saveFileName_collides :
    "a.b" ≠ "a_b" ∧ saveFileName "a.b" = saveFileName "a_b" ∧
      ∀ sh : Shelf, sh.contains "a.b" = sh.contains "a_b" ∧ sh.get "a.b" = sh.get "a_b" := by
  have hname : saveFileName "a.b" = saveFileName "a_b" := by
    -- the key prefix is shared, and `.` is written `_`
    have hid : "a.b".toList.map nameChar = "a_b".toList.map nameChar := by decide
    rw [saveFileName_eq, saveFileName_eq, slotKey, slotKey, String.toList_append,
      String.toList_append, List.map_append, List.map_append, hid]
  refine ⟨by decide, hname, fun sh => ?_⟩
  have hslot : sh.slot "a.b" = sh.slot "a_b" := by simp only [Shelf.slot, hname]
  constructor
  · simp only [Shelf.contains, hslot]
  · unfold Shelf.get Shelf.contains
    rw [hslot]

end Novel.Terminal

namespace Novel.Save

theorem Store.raw?_insertRaw (st : Store) (key value : String) :
    (st.insertRaw key value).raw? key = some value := by
  simp [Store.insertRaw, Store.raw?]

end Novel.Save

namespace Novel.Play.Session

open Novel.Story Novel.Save

variable {σ : Type} [Slots σ]

/-- Continuing from a slot that loads a record whose node is in the book resumes it. -/
theorem continueSaved_of_load {x : Session σ × List Event} {r : Record}
    (hload : Slots.load x.1.store x.1.config.sheetId = .ok (some r))
    (hnode : x.1.ensureNode r.toProgress.current = .ok ()) :
    ((continueSaved : Act σ _).run x).run =
      (.ok (some (resumed x r.toProgress).1), (resumed x r.toProgress).2) := by
  simp [continueSaved, current, hload, resume_run_ok x hnode, Except.map]

/-- **Continuing resumes the record the slot loads, whatever its sheet.** It succeeds exactly when
the store loads a record for the session's sheet id whose node is in the book, and the progress
is then that record's. Nothing asks that the record's own sheet id be the session's; importing
asks it, continuing does not. -/
theorem continueSaved_resumes_slot_record (s : Session σ) :
    (∃ u, ((continueSaved : Act σ _).run (s, [])).run.1 = .ok (some u)) ↔
      ∃ r, Slots.load s.store s.config.sheetId = .ok (some r) ∧
        s.book.graph.contains r.currentNodeId = true ∧
        ((continueSaved : Act σ _).run (s, [])).run.2.1.progress = r.toProgress := by
  constructor
  · rintro ⟨u, hu⟩
    rcases continueSaved_cases (s, []) with ⟨-, hnone⟩ | ⟨r, -, hload, hmem, -, hcourse⟩
    · exact absurd hu (hnone u)
    · exact ⟨r, hload, hmem, congrArg Course.progress hcourse⟩
  · rintro ⟨r, hload, hmem, -⟩
    rw [continueSaved_of_load hload (ensureNode_eq_ok.2 hmem)]
    exact ⟨_, rfl⟩

/-- A record of another sheet, at the sample's room. -/
def foreignRecord : Record :=
  { sheetId := "other", currentNodeId := "room", flags := [], history := ["door"],
    savedAt := Time.Instant.epoch }

/-- The sample session, whose slot holds the text of `foreignRecord`, put under the slot's key
from outside the player. -/
def foreignSlotSession : Session Store :=
  { sampleSession with store := ({} : Store).insertRaw (slotKey "local") foreignRecord.toJson }

/-- Continuing the sample from a slot that holds another sheet's record resumes that record. -/
theorem continueSaved_resumes_foreign_record :
    Slots.load foreignSlotSession.store foreignSlotSession.config.sheetId =
        .ok (some foreignRecord) ∧
      foreignRecord.sheetId ≠ foreignSlotSession.config.sheetId ∧
      (∃ u, ((continueSaved : Act Store _).run (foreignSlotSession, [])).run.1 = .ok (some u)) ∧
      ((continueSaved : Act Store _).run (foreignSlotSession, [])).run.2.1.progress =
        foreignRecord.toProgress := by
  have hread : Record.ofJson foreignRecord.toJson = .ok foreignRecord :=
    Record.ofJson_toJson foreignRecord Time.Instant.epoch_wellFormed (by decide)
  have hload : Slots.load foreignSlotSession.store foreignSlotSession.config.sheetId =
      .ok (some foreignRecord) := by
    show Store.get (({} : Store).insertRaw (slotKey "local") foreignRecord.toJson) "local" = _
    rw [Store.get, Store.raw?_insertRaw]
    exact congrArg (Except.map some) hread
  have hnode : foreignSlotSession.ensureNode foreignRecord.toProgress.current = .ok () := rfl
  have hrun := @continueSaved_of_load Store _ (foreignSlotSession, []) foreignRecord hload hnode
  refine ⟨hload, by decide, ⟨_, by rw [hrun]⟩, ?_⟩
  rw [hrun]
  rfl

end Novel.Play.Session
