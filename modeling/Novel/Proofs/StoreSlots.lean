import Mathlib.Data.List.Induction
import Novel.Proofs.SlotOwnership

/-!
# One slot per sheet in the memory store

The memory store keeps texts under keys, and a sheet's slot is the key made of a fixed prefix
and the sheet id. Saving a record writes its text under the key of its sheet, and deleting
removes the text under the key of the given sheet. So:

* different sheets have different keys, since the prefix is the same for all;
* a call changes the slot of its own sheet and no other;
* after any run of saves and deletes, a sheet's slot holds the text of the record of the last
  call on that sheet, when that call is a save, and nothing when it is a delete or when no call
  was on that sheet. That record is read back whole, so loading gives it, and the slot is
  filled exactly when loading gives a record.
-/

namespace Novel.Save

open Novel.Time

/-! ## Keys and texts -/

theorem slotKey_inj {a b : String} : slotKey a = slotKey b ↔ a = b :=
  String.append_right_inj keyPrefix

namespace Store

/-- Removing the text under a key: that key reads nothing, every other key what it read. -/
theorem raw?_erase (st : Store) (key k : String) :
    (st.erase key).raw? k = if k = key then none else st.raw? k := by
  simp only [erase, raw?, List.find?_filter]
  by_cases h : k = key
  · -- no entry both differs from the key and equals it
    subst h
    simp
  · -- an entry under `k` is not under `key`, so the removal does not change which is found
    rw [if_neg h]
    congr 2
    funext e
    by_cases he : e.1 = k
    · simp [he, h]
    · simp [he]

/-- Putting a text under a key: that key reads the new text, every other key what it read. -/
theorem raw?_insertRaw_eq (st : Store) (key value k : String) :
    (st.insertRaw key value).raw? k = if k = key then some value else st.raw? k := by
  by_cases h : k = key
  · subst h
    simp [insertRaw, raw?]
  · have hne : (key == k) = false := by
      simp only [beq_eq_false_iff_ne, ne_eq]
      exact fun h' => h h'.symm
    -- the new entry is not under `k`, so `k` reads what it read once the old entry was removed
    have hnew : (st.insertRaw key value).raw? k = (st.erase key).raw? k := by
      simp [insertRaw, raw?, hne]
    rw [hnew, raw?_erase, if_neg h, if_neg h]

theorem get_congr {st st' : Store} {x : String} (h : st.raw? (slotKey x) = st'.raw? (slotKey x)) :
    st.get x = st'.get x := by
  unfold get
  rw [h]

theorem contains_eq (st : Store) (x : String) :
    st.contains x = (st.raw? (slotKey x)).isSome := rfl

end Store

/-! ## Calls -/

/-- A call that changes a save store: writing a record, or emptying a sheet's slot. -/
inductive StoreCall where
  | save (r : Record)
  | delete (sheetId : String)
  deriving DecidableEq, Repr

namespace StoreCall

/-- The store after the call, through the store's own save and delete. -/
def apply (st : Store) : StoreCall → Store
  | .save r => (Slots.save st r).1
  | .delete sheetId => (Slots.delete st sheetId).1

/-- The sheet whose slot the call writes or empties. -/
def sheet : StoreCall → String
  | .save r => r.sheetId
  | .delete sheetId => sheetId

/-- The record the call leaves in its sheet's slot, if any. -/
def record? : StoreCall → Option Record
  | .save r => some r
  | .delete _ => none

/-- The store a run of calls leaves, starting from an empty one. -/
def run (calls : List StoreCall) : Store := calls.foldl apply {}

end StoreCall

/-- The record a sheet's slot holds after a run of calls: that of the last call on the sheet when
it is a save, and none when it is a delete or when no call was on the sheet. -/
def lastSaved (x : String) (calls : List StoreCall) : Option Record :=
  ((calls.filter (·.sheet == x)).getLast?).bind StoreCall.record?

theorem lastSaved_nil (x : String) : lastSaved x [] = none := rfl

theorem lastSaved_append_singleton (x : String) (calls : List StoreCall) (c : StoreCall) :
    lastSaved x (calls ++ [c]) = if c.sheet = x then c.record? else lastSaved x calls := by
  by_cases h : c.sheet = x
  · simp [lastSaved, List.filter_append, h]
  · simp [lastSaved, List.filter_append, h]

/-- The record a slot holds was saved by one of the calls, for that sheet. -/
theorem save_mem_of_lastSaved {x : String} {calls : List StoreCall} {r : Record}
    (h : lastSaved x calls = some r) : StoreCall.save r ∈ calls ∧ r.sheetId = x := by
  induction calls using List.reverseRecOn with
  | nil => simp [lastSaved_nil] at h
  | append_singleton calls c ih =>
    rw [lastSaved_append_singleton] at h
    by_cases hc : c.sheet = x
    · rw [if_pos hc] at h
      cases c with
      | save r' =>
        cases h
        exact ⟨List.mem_append_right _ (List.mem_singleton_self _), hc⟩
      | delete y => cases h
    · rw [if_neg hc] at h
      exact ⟨List.mem_append_left _ (ih h).1, (ih h).2⟩

namespace StoreCall

/-- **One call**: the slot of its sheet holds its record's text, or nothing after a delete;
every other slot keeps its text. -/
theorem raw?_apply (st : Store) (c : StoreCall) (x : String) :
    (c.apply st).raw? (slotKey x) =
      if c.sheet = x then c.record?.map Record.toJson else st.raw? (slotKey x) := by
  cases c with
  | save r =>
    show (st.insertRaw (slotKey r.sheetId) r.toJson).raw? (slotKey x) = _
    rw [Store.raw?_insertRaw_eq]
    by_cases h : r.sheetId = x
    · simp [sheet, record?, h]
    · have hkey : slotKey x ≠ slotKey r.sheetId := fun hk => h (slotKey_inj.1 hk).symm
      simp [sheet, h, hkey]
  | delete y =>
    show (st.erase (slotKey y)).raw? (slotKey x) = _
    rw [Store.raw?_erase]
    by_cases h : y = x
    · simp [sheet, record?, h]
    · have hkey : slotKey x ≠ slotKey y := fun hk => h (slotKey_inj.1 hk).symm
      simp [sheet, h, hkey]

/-- A call on another sheet changes neither what loading a sheet gives, nor whether its slot is
filled, nor its text. -/
theorem apply_of_sheet_ne (st : Store) {c : StoreCall} {x : String} (h : c.sheet ≠ x) :
    Slots.load (c.apply st) x = Slots.load st x ∧ Slots.has (c.apply st) x = Slots.has st x ∧
      (c.apply st).raw? (slotKey x) = st.raw? (slotKey x) := by
  have hraw : (c.apply st).raw? (slotKey x) = st.raw? (slotKey x) := by
    rw [raw?_apply, if_neg h]
  exact ⟨Store.get_congr hraw, by simp only [Slots.has, Store.contains_eq, hraw], hraw⟩

/-- **A run of calls**: each slot holds the text of the record the last call on its sheet
saved, or nothing. -/
theorem raw?_run (calls : List StoreCall) (x : String) :
    (run calls).raw? (slotKey x) = (lastSaved x calls).map Record.toJson := by
  induction calls using List.reverseRecOn with
  | nil => rfl
  | append_singleton calls c ih =>
    rw [run, List.foldl_append, List.foldl_cons, List.foldl_nil, ← run, raw?_apply, ih,
      lastSaved_append_singleton]
    by_cases h : c.sheet = x
    · rw [if_pos h, if_pos h]
    · rw [if_neg h, if_neg h]

end StoreCall

/-- **The memory store keeps one independent slot per sheet.** After any run of saves and
deletes from an empty store, whose records are stamped at instants a clock can show, and for
every sheet `x`: loading `x` gives the record of the last call on `x` when that call is a save,
and nothing when it is a delete or when no call was on `x`; the slot is filled exactly when
loading gives a record; its text is that record's text. A call on another sheet changes none of
the three, in any store, and no two sheets share a key. -/
theorem memory_store_slot_per_sheet (calls : List StoreCall)
    (hclock : ∀ r, StoreCall.save r ∈ calls → r.savedAt.WellFormed ∧ r.savedAt.inRange = true)
    (x : String) :
    Slots.load (StoreCall.run calls) x = .ok (lastSaved x calls) ∧
      Slots.has (StoreCall.run calls) x = (lastSaved x calls).isSome ∧
      (StoreCall.run calls).raw? (slotKey x) = (lastSaved x calls).map Record.toJson ∧
      (∀ (st : Store) (c : StoreCall), c.sheet ≠ x →
        Slots.load (c.apply st) x = Slots.load st x ∧ Slots.has (c.apply st) x = Slots.has st x ∧
          (c.apply st).raw? (slotKey x) = st.raw? (slotKey x)) ∧
      ∀ y, slotKey x = slotKey y ↔ x = y := by
  have hraw := StoreCall.raw?_run calls x
  have hload : Slots.load (StoreCall.run calls) x = .ok (lastSaved x calls) := by
    show Store.get _ x = _
    cases hlast : lastSaved x calls with
    | none => simp [Store.get, hraw, hlast]
    | some r =>
      -- the record in the slot was saved by the run, so its text reads back as itself
      obtain ⟨hwf, hin⟩ := hclock r (save_mem_of_lastSaved hlast).1
      simp [Store.get, hraw, hlast, Record.ofJson_toJson_of_inRange r hwf hin, Except.map]
  refine ⟨hload, ?_, hraw, fun st c h => StoreCall.apply_of_sheet_ne st h,
    fun y => slotKey_inj⟩
  show Store.contains _ x = _
  rw [Store.contains_eq, hraw, Option.isSome_map]

/-- Saves for sheets `one` and `two`, at the epoch, and then a delete of `one`. -/
def twoSheetCalls : List StoreCall :=
  [.save (Record.capture "one" (Play.Progress.start "A") Instant.epoch),
   .save (Record.capture "two" (Play.Progress.start "B") Instant.epoch), .delete "one"]

/-- After `twoSheetCalls`, sheet `two` still loads its record, and sheet `one` loads nothing. -/
theorem memory_store_keeps_two_after_deleting_one :
    (∀ r, StoreCall.save r ∈ twoSheetCalls → r.savedAt.WellFormed ∧ r.savedAt.inRange = true) ∧
      Slots.load (StoreCall.run twoSheetCalls) "two" =
        .ok (some (Record.capture "two" (Play.Progress.start "B") Instant.epoch)) ∧
      Slots.load (StoreCall.run twoSheetCalls) "one" = .ok none := by
  have hclock : ∀ r, StoreCall.save r ∈ twoSheetCalls →
      r.savedAt.WellFormed ∧ r.savedAt.inRange = true := by
    intro r hr
    simp only [twoSheetCalls, List.mem_cons, StoreCall.save.injEq, List.not_mem_nil, or_false,
      reduceCtorEq] at hr
    rcases hr with rfl | rfl <;> exact ⟨Instant.epoch_wellFormed, by decide⟩
  exact ⟨hclock, (memory_store_slot_per_sheet twoSheetCalls hclock "two").1.trans rfl,
    (memory_store_slot_per_sheet twoSheetCalls hclock "one").1.trans rfl⟩

end Novel.Save
