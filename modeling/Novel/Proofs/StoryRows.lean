import Mathlib.Data.List.Forall2
import Novel.Proofs.BookLoading

/-!
# Reading the story tab

A story tab with a header row and at least one row below it is read into one node per
*playable* data row, in row order; a tab with fewer rows is refused. A data row is playable when
it has an id and either text or a first choice target. This module states what the node of a
playable row is, field by field, as `ReadsRow`, without reference to how the reader computes it:

* the id and the text are the cells at their columns, and every optional text cell (speaker,
  images, background, music, sound) is absent when empty and present as written otherwise;
* the choices are the choice groups whose target cell is set, in group order, so a node ends the
  story exactly when all four target cells are empty;
* a flag cell gives no list when empty, and otherwise the trimmed non-empty pieces between its
  commas, in order; "the pieces between its commas" is said through `List.intercalate`, so it
  does not depend on how the text is split.

Cells are read by position, and a row shorter than the layout reads as if padded with empty
cells (`nodeOfRow_pad`).
-/

namespace Novel.Story

/-! ## What a row says -/

/-- A data row that describes a node: it has an id, and text or a first choice target. -/
def PlayableRow (row : Table.Row) : Prop :=
  cellAt row Column.id ≠ "" ∧
    (cellAt row Column.text ≠ "" ∨ cellAt row (Column.firstChoice + 1) ≠ "")

instance : DecidablePred PlayableRow := fun _ => inferInstanceAs (Decidable (_ ∧ _))

/-- Choice group `g` (counting from 0) of a row has a target. -/
def HasTarget (row : Table.Row) (g : Nat) : Prop := cellAt row (Column.firstChoice + 3 * g + 1) ≠ ""

instance (row : Table.Row) : DecidablePred (HasTarget row) :=
  fun _ => inferInstanceAs (Decidable (_ ≠ _))

/-- The choice that group `g` of a row describes: its text, its target and its style. -/
def groupChoice (row : Table.Row) (g : Nat) : Choice where
  text := cellAt row (Column.firstChoice + 3 * g)
  target := cellAt row (Column.firstChoice + 3 * g + 1)
  style := Style.ofCell (cellAt row (Column.firstChoice + 3 * g + 2))

/-- The optional text fields of a node, each with its column. -/
def optionalColumns : List (Nat × (Node → Option String)) :=
  [(Column.speaker, Node.speaker), (Column.speakerImage, Node.speakerImage),
    (Column.leftImage, Node.leftImage), (Column.centerImage, Node.centerImage),
    (Column.rightImage, Node.rightImage), (Column.background, Node.background),
    (Column.music, Node.music), (Column.sound, Node.sound)]

/-- A flag cell read as flags: none when the cell is empty, and otherwise the pieces between its
commas, trimmed, without the empty ones, in order. -/
def FlagsOf (cell : String) (flags : Option (List String)) : Prop :=
  (flags = none ↔ cell = "") ∧
    ∀ pieces : List (List Char), [','].intercalate pieces = cell.toList → (∀ p ∈ pieces, ',' ∉ p) →
      cell ≠ "" → flags = some (((pieces.map Text.trim).filter (· ≠ [])).map String.ofList)

/-- The node a playable row describes, field by field. -/
structure ReadsRow (row : Table.Row) (n : Node) : Prop where
  id : n.id = cellAt row Column.id
  text : n.text = cellAt row Column.text
  /-- Each optional cell is absent when empty and present as written otherwise. -/
  optional : ∀ p ∈ optionalColumns,
    p.2 n = if cellAt row p.1 = "" then none else some (cellAt row p.1)
  position : n.position = Position.ofCell (cellAt row Column.position)
  transition : n.transition = Transition.ofCell (cellAt row Column.transition)
  /-- The groups with a target, in group order. -/
  choices : n.choices = ((List.range 4).filter (HasTarget row)).map (groupChoice row)
  ending : n.isEnding = true ↔ ∀ g < 4, cellAt row (Column.firstChoice + 3 * g + 1) = ""
  grants : FlagsOf (cellAt row Column.grants) n.grants
  requires : FlagsOf (cellAt row Column.requires) n.requires

/-! ## Cells -/

theorem isEmpty_eq_decide (s : String) : s.isEmpty = decide (s = "") := by
  by_cases h : s = "" <;> simp [h, String.isEmpty_iff]

/-- Empty cells past the end of a row read as the missing cells they stand for. -/
theorem cellAt_pad (row : Table.Row) (k i : Nat) :
    cellAt (row ++ List.replicate k "") i = cellAt row i := by
  unfold cellAt
  by_cases hi : i < row.length
  · simp [List.getD_eq_getElem?_getD, List.getElem?_append_left hi]
  · simp only [List.getD_eq_getElem?_getD, List.getElem?_append_right (Nat.le_of_not_lt hi),
      List.getElem?_eq_none (Nat.le_of_not_lt hi), List.getElem?_replicate]
    split <;> rfl

theorem optionalAt_eq (row : Table.Row) (i : Nat) :
    optionalAt row i = if cellAt row i = "" then none else some (cellAt row i) := by
  simp [optionalAt, isEmpty_eq_decide]

theorem choiceAt_group (row : Table.Row) (g : Nat) :
    choiceAt row (Column.firstChoice + 3 * g) =
      if HasTarget row g then some (groupChoice row g) else none := by
  by_cases h : HasTarget row g
  · have hne : (cellAt row (Column.firstChoice + 3 * g + 1)).isEmpty = false := by
      simpa [isEmpty_eq_decide, HasTarget] using h
    simp [choiceAt, hne, h, groupChoice]
  · have he : (cellAt row (Column.firstChoice + 3 * g + 1)).isEmpty = true := by
      simpa [isEmpty_eq_decide, HasTarget] using h
    simp [choiceAt, he, h]

/-! ## Flags -/

/-- A flag cell gives no list exactly when it is empty, and otherwise the trimmed non-empty
pieces between its commas. -/
theorem flagsOf_parseFlags (cell : String) : FlagsOf cell (parseFlags cell) := by
  refine ⟨by by_cases h : cell = "" <;> simp [parseFlags, h, isEmpty_eq_decide], ?_⟩
  intro pieces hjoin hnocomma hne
  -- a text that is not empty has pieces, and splitting at the commas gives them back
  have hpieces : pieces ≠ [] := by
    rintro rfl
    exact hne (String.toList_inj.1 (by simpa using hjoin.symm))
  have hsplit : cell.toList.splitOn ',' = pieces := by
    rw [← hjoin]
    exact List.splitOn_intercalate ',' hnocomma hpieces
  have hfilter : ((pieces.map Text.trim).filter fun t => !t.isEmpty) =
      (pieces.map Text.trim).filter (· ≠ []) := by
    apply List.filter_congr
    intro t _
    cases t <;> simp
  simp [parseFlags, isEmpty_eq_decide, hne, hsplit, hfilter]

/-! ## One row -/

/-- A row gives a node exactly when it is playable. -/
theorem nodeOfRow_isSome_iff (row : Table.Row) : (nodeOfRow row).isSome ↔ PlayableRow row := by
  unfold nodeOfRow PlayableRow
  by_cases hid : cellAt row Column.id = ""
  · simp [hid]
  · by_cases ht : cellAt row Column.text = "" <;>
      by_cases hc : cellAt row (Column.firstChoice + 1) = "" <;>
      simp [hid, ht, hc, isEmpty_eq_decide]

theorem choices_nodeOfRow (row : Table.Row) :
    [0, 1, 2, 3].filterMap (fun g => choiceAt row (Column.firstChoice + 3 * g)) =
      ((List.range 4).filter (HasTarget row)).map (groupChoice row) := by
  rw [show [0, 1, 2, 3] = List.range 4 from rfl, ← List.filterMap_eq_map, List.filterMap_filter]
  congr 1
  funext g
  rw [choiceAt_group]
  by_cases h : HasTarget row g <;> simp [h]

/-- **The node of a playable row reads each field from its column.** -/
theorem readsRow_of_nodeOfRow {row : Table.Row} {n : Node} (h : nodeOfRow row = some n) :
    ReadsRow row n := by
  unfold nodeOfRow at h
  dsimp only at h
  split at h
  · cases h
  split at h
  · cases h
  cases h
  have hchoices := choices_nodeOfRow row
  -- the position and the transition are compared as written, without running their readers
  refine ⟨rfl, rfl, ?_, by with_reducible rfl, by with_reducible rfl, hchoices, ?_,
    flagsOf_parseFlags _, flagsOf_parseFlags _⟩
  · simp [optionalColumns, optionalAt_eq]
  · -- no group has a target exactly when the filtered groups are none
    rw [Node.isEnding, hchoices, List.isEmpty_iff, List.map_eq_nil_iff, List.filter_eq_nil_iff]
    simp only [List.mem_range, decide_eq_true_eq]
    simp only [HasTarget, not_not]

theorem nodeOfRow_pad (row : Table.Row) (k : Nat) :
    nodeOfRow (row ++ List.replicate k "") = nodeOfRow row := by
  simp only [nodeOfRow, optionalAt, choiceAt, cellAt_pad]

/-! ## The tab -/

theorem nodesOfRows_eq_error_iff (rows : List Table.Row) :
    nodesOfRows rows = .error .missingRows ↔ rows.length < 2 := by
  refine ⟨fun h => ?_, nodesOfRows_of_lt_two⟩
  by_contra hlt
  rw [nodesOfRows_of_two_le (by omega)] at h
  cases h

/-- The nodes of rows read the playable rows, one node each, in order. -/
theorem forall₂_readsRow (rows : List Table.Row) :
    List.Forall₂ ReadsRow (rows.filter (PlayableRow ·)) (rows.filterMap nodeOfRow) := by
  induction rows with
  | nil => exact .nil
  | cons row rows ih =>
    rw [List.filter_cons, List.filterMap_cons]
    cases hn : nodeOfRow row with
    | none =>
      have hp : ¬ PlayableRow row := by
        rw [← nodeOfRow_isSome_iff, hn]
        simp
      simpa [hp] using ih
    | some n =>
      have hp : PlayableRow row := by
        rw [← nodeOfRow_isSome_iff, hn]
        rfl
      simpa [hp] using List.Forall₂.cons (readsRow_of_nodeOfRow hn) ih

/-- **Reading the story tab.** A tab of fewer than two rows is refused; otherwise each
playable data row gives one node, in order, that reads its fields from the row's columns; and
padding rows with empty cells changes nothing. -/
theorem nodesOfRows_reads_rows (rows : List Table.Row) :
    (nodesOfRows rows = .error .missingRows ↔ rows.length < 2) ∧
      (2 ≤ rows.length → ∃ ns, nodesOfRows rows = .ok ns ∧
        List.Forall₂ ReadsRow (rows.tail.filter (PlayableRow ·)) ns) ∧
      (∀ k, nodesOfRows (rows.map (· ++ List.replicate k "")) = nodesOfRows rows) := by
  refine ⟨nodesOfRows_eq_error_iff rows, fun h => ?_, fun k => ?_⟩
  · exact ⟨_, nodesOfRows_of_two_le h, forall₂_readsRow rows.tail⟩
  · -- padding keeps the number of rows, and each row reads the same
    have hlen : (rows.map (· ++ List.replicate k "")).length = rows.length := List.length_map _
    have htail : (rows.map (· ++ List.replicate k "")).tail.filterMap nodeOfRow =
        rows.tail.filterMap nodeOfRow := by
      rw [← List.map_tail, List.filterMap_map]
      congr 1
      funext row
      exact nodeOfRow_pad row k
    by_cases h : 2 ≤ rows.length
    · rw [nodesOfRows_of_two_le h, nodesOfRows_of_two_le (hlen ▸ h), playable, playable, htail]
    · rw [nodesOfRows_of_lt_two (by rw [hlen]; omega), nodesOfRows_of_lt_two (by omega)]

end Novel.Story
