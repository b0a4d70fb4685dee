import Mathlib.Data.List.DropRight
import Novel.Proofs.TableRoundTrip
import Novel.Story.MetadataTab

/-!
# The two metadata layouts agree

A metadata tab can list its labels with their values one pair per row (key/value), or put the
labels in a first row and the values in a second (columnar). Written as text and read back, the
same pairs of a label and a value give the same metadata in either layout, with one exception:
two pairs written as columns make a tab of two rows of two cells, which reads as key/value. That
tab is always reported as ambiguous, as long as a value is not blank.

The argument:

* reading back what was written gives the rows (the table round trip);
* a label names a field only when, trimmed and lowered, it is one of the aliases, and no alias
  is empty, blank, of three letters like the header word `key`, or changed by trimming again;
* so key/value rows of labels are each read as "set the label's field", and a columnar tab of
  one label, or of three or more, is not mistaken for key/value;
* and both readers then set the same fields to the same values in the same order.
-/

namespace Novel.Text

theorem trim_eq_nil_of_allBlank {cs : List Char} (h : allBlank cs = true) : trim cs = [] := by
  have hstart : trimStart cs = [] := List.dropWhile_eq_nil_iff.2 (by simpa [allBlank] using h)
  simp [trim, hstart, trimEnd]

/-- Trimming twice trims no more than once. -/
theorem trim_trim (cs : List Char) : trim (trim cs) = trim cs := by
  -- `trimEnd` keeps a prefix, so what it leaves starts as `trimStart cs` does: not with a blank
  have hpre : trim cs <+: trimStart cs := List.rdropWhile_prefix isBlank (trimStart cs)
  have hstart : trimStart (trim cs) = trim cs := by
    rw [trimStart, List.dropWhile_eq_self_iff]
    intro hl
    rw [hpre.getElem hl]
    exact List.dropWhile_get_zero_not isBlank cs _
  rw [trim, hstart]
  exact List.rdropWhile_idempotent isBlank (trimStart cs)

end Novel.Text

namespace Novel.Story

/-! ## Labels -/

namespace Field

/-- A label names a field when, trimmed and lowered, it is one of the field's aliases. -/
theorem ofLabel_eq_some {label : String} {f : Field} (h : ofLabel label = some f) :
    ∃ w ∈ f.aliases, (Text.trim label.toList).map Text.lower = w.toList := by
  have hany := List.find?_some h
  simp only [List.any_eq_true] at hany
  obtain ⟨w, hw, hword⟩ := hany
  exact ⟨w, hw, by simpa [Text.isWord] using hword⟩

theorem aliases_shape (f : Field) : ∀ w ∈ f.aliases, w.toList ≠ [] ∧ w.toList.length ≠ 3 := by
  cases f <;> decide

variable {label : String} {f : Field}

theorem trim_ne_nil_of_ofLabel (h : ofLabel label = some f) : Text.trim label.toList ≠ [] := by
  obtain ⟨w, hw, hmap⟩ := ofLabel_eq_some h
  intro hnil
  rw [hnil, List.map_nil] at hmap
  exact (aliases_shape f w hw).1 hmap.symm

theorem isBlankString_of_ofLabel (h : ofLabel label = some f) :
    Text.isBlankString label = false := by
  cases hb : Text.isBlankString label with
  | false => rfl
  | true => exact absurd (Text.trim_eq_nil_of_allBlank hb) (trim_ne_nil_of_ofLabel h)

/-- A label that names a field is not the header word `key`. -/
theorem not_key_of_ofLabel (h : ofLabel label = some f) :
    Text.equalsIgnoringAsciiCase (Text.trim label.toList) "key".toList = false := by
  obtain ⟨w, hw, hmap⟩ := ofLabel_eq_some h
  cases hkey : Text.equalsIgnoringAsciiCase (Text.trim label.toList) "key".toList with
  | false => rfl
  | true =>
    -- a text equal to `key` up to case has three letters, and no alias has
    have hlen : (Text.trim label.toList).length = 3 := by
      simp only [Text.equalsIgnoringAsciiCase, beq_iff_eq] at hkey
      simpa using congrArg List.length hkey
    have hw3 : w.toList.length = 3 := by rw [← hmap, List.length_map, hlen]
    exact absurd hw3 (aliases_shape f w hw).2

theorem ofLabel_trim (label : String) :
    ofLabel (String.ofList (Text.trim label.toList)) = ofLabel label := by
  simp [ofLabel, Text.isWord, Text.trim_trim]

end Field

/-! ## Reading pairs in either layout -/

namespace MetadataTab

/-- Set the field a label names to the value stripped of markup; another label changes
nothing. -/
def setLabelled (m : Metadata) (label value : String) : Metadata :=
  match Field.ofLabel label with
  | some f => m.set f (Text.stripTags value)
  | none => m

/-- The metadata that pairs of a label and a value give, set in order. -/
def ofPairs (pairs : List (String × String)) : Metadata :=
  pairs.foldl (fun m p => setLabelled m p.1 p.2) {}

/-- The key/value rows of pairs: one label and its value per row. -/
def pairRows (pairs : List (String × String)) : List Table.Row := pairs.map fun p => [p.1, p.2]

/-- The columnar rows of pairs: the labels, then the values. -/
def columnRows (pairs : List (String × String)) : List Table.Row :=
  [pairs.map Prod.fst, pairs.map Prod.snd]

section

variable {pairs : List (String × String)} (hlabels : ∀ p ∈ pairs, (Field.ofLabel p.1).isSome)
include hlabels

/-- Key/value rows of labels set each label's field in turn. -/
theorem readPairs_pairRows : readPairs (pairRows pairs) = ofPairs pairs := by
  rw [readPairs, pairRows, List.foldl_map, ofPairs]
  apply List.foldl_ext
  intro m p hp
  obtain ⟨f, hf⟩ := Option.isSome_iff_exists.1 (hlabels p hp)
  -- the label is neither empty after trimming nor the header word
  have hne : (Text.trim p.1.toList).isEmpty = false :=
    List.isEmpty_eq_false_iff.2 (Field.trim_ne_nil_of_ofLabel hf)
  have hskip : ¬ (((Text.trim ([p.1, p.2].headD "").toList).isEmpty ||
      Text.equalsIgnoringAsciiCase (Text.trim ([p.1, p.2].headD "").toList) "key".toList) =
        true) := by
    rw [List.headD_cons, hne, Field.not_key_of_ofLabel hf]
    decide
  rw [if_neg hskip, List.headD_cons, Field.ofLabel_trim]
  rfl

end

/-- Reading columns whose values from position `n` on are the pairs' values sets each label's
field to its value in turn. -/
theorem foldl_zipIdx_columns (values : List String) :
    ∀ (pairs : List (String × String)) (n : Nat) (m : Metadata),
      values.drop n = pairs.map Prod.snd →
      ((pairs.map Prod.fst).zipIdx n).foldl (fun m (header, i) =>
          match Field.ofLabel header with
          | some f => m.set f (Text.stripTags (((some values).bind (·[i]?)).getD ""))
          | none => m) m =
        pairs.foldl (fun m p => setLabelled m p.1 p.2) m
  | [], _, _, _ => rfl
  | p :: pairs, n, m, h => by
    -- the value at position `n` is this pair's, and the rest start at `n + 1`
    have hval : values[n]? = some p.2 := by
      have h0 := congrArg (fun l => l[0]?) h
      simpa [List.getElem?_drop] using h0
    have hrest : values.drop (n + 1) = pairs.map Prod.snd := by
      rw [← List.drop_drop, h]
      rfl
    simp only [List.map_cons, List.zipIdx_cons, List.foldl_cons]
    rw [foldl_zipIdx_columns values pairs (n + 1) _ hrest]
    simp [hval, setLabelled]

theorem readColumns_columnRows (pairs : List (String × String)) :
    readColumns (columnRows pairs) = ofPairs pairs := by
  simp only [readColumns, columnRows, List.head?_cons]
  exact foldl_zipIdx_columns (pairs.map Prod.snd) pairs 0 {} rfl

/-! ## Which layout is detected -/

section

variable {pairs : List (String × String)} (hlabels : ∀ p ∈ pairs, (Field.ofLabel p.1).isSome)
include hlabels

theorem isKeyCell_of_label {p : String × String} (hp : p ∈ pairs) : isKeyCell p.1 = true := by
  simp [isKeyCell, hlabels p hp]

theorem layout_pairRows (hne : pairs ≠ []) : layout (pairRows pairs) = .keyValue := by
  obtain ⟨p, ps, rfl⟩ := List.exists_cons_of_ne_nil hne
  simp [layout, pairRows, isKeyCell_of_label hlabels List.mem_cons_self]

/-- A first row of one label, or of three or more, reads as columns: it is not a pair, and its
third label is not blank padding. -/
theorem layout_columnRows (hne : pairs ≠ []) (h2 : pairs.length ≠ 2) :
    layout (columnRows pairs) = .columnar := by
  match pairs, hne, h2, hlabels with
  | [p], _, _, hlabels =>
    simp [layout, columnRows, isPaddedPair, isKeyCell_of_label hlabels List.mem_cons_self]
  | p :: q :: r :: rest, _, _, hlabels =>
    have hr : (Field.ofLabel r.1).isSome := hlabels r (by simp)
    obtain ⟨f, hf⟩ := Option.isSome_iff_exists.1 hr
    simp [layout, columnRows, isPaddedPair, isKeyCell_of_label hlabels List.mem_cons_self,
      Field.isBlankString_of_ofLabel hf]

end

theorem layout_columnRows_two {p q : String × String} (hp : (Field.ofLabel p.1).isSome) :
    layout (columnRows [p, q]) = .keyValue := by
  simp [layout, columnRows, isKeyCell, hp]

/-- Two pairs written as columns, with a value that is not blank, are reported as ambiguous. -/
theorem isAmbiguous_columnRows_two {p q : String × String} (hp : (Field.ofLabel p.1).isSome)
    (hq : (Field.ofLabel q.1).isSome)
    (hv : Text.isBlankString p.2 = false ∨ Text.isBlankString q.2 = false) :
    isAmbiguous (columnRows [p, q]) = true := by
  obtain ⟨f, hf⟩ := Option.isSome_iff_exists.1 hp
  -- both rows hold something that is not blank
  have hlabelRow : isBlankRow [p.1, q.1] = false := by
    simp [isBlankRow, Field.isBlankString_of_ofLabel hf]
  have hvalueRow : isBlankRow [p.2, q.2] = false := by
    rcases hv with hv | hv <;> simp [isBlankRow, hv]
  have hlayout : layout [[p.1, q.1], [p.2, q.2]] = .keyValue := layout_columnRows_two hp
  simp only [isAmbiguous, columnRows, List.map_cons, List.map_nil]
  simp [hlabelRow, hvalueRow, hlayout, hp, hq]

/-! ## The layouts agree -/

/-- **The two layouts agree.** Pairs of a label and a value, written as key/value rows or as a
row of labels over a row of values and read back, give the same metadata (or both no title),
unless there are exactly two pairs. Two pairs written as columns read as key/value, and the tab
is reported as ambiguous whenever a value is not blank. -/
theorem layouts_agree (pairs : List (String × String)) (hne : pairs ≠ [])
    (hlabels : ∀ p ∈ pairs, (Field.ofLabel p.1).isSome) :
    (pairs.length ≠ 2 →
      read (Table.read (Table.write (pairRows pairs))) =
        read (Table.read (Table.write (columnRows pairs)))) ∧
    (pairs.length = 2 → (∃ p ∈ pairs, Text.isBlankString p.2 = false) →
      layout (Table.read (Table.write (columnRows pairs))) = .keyValue ∧
        isAmbiguous (Table.read (Table.write (columnRows pairs))) = true) := by
  -- every row written has a cell, so reading gives the rows back
  have hpairs : Table.read (Table.write (pairRows pairs)) = pairRows pairs :=
    Table.read_write _ (by
      intro r hr
      obtain ⟨p, -, rfl⟩ := List.mem_map.1 hr
      simp)
  have hcolumns : Table.read (Table.write (columnRows pairs)) = columnRows pairs :=
    Table.read_write _ (by simp [columnRows, hne])
  rw [hpairs, hcolumns]
  constructor
  · intro h2
    unfold read
    rw [layout_pairRows hlabels hne, layout_columnRows hlabels hne h2]
    dsimp only
    rw [readPairs_pairRows hlabels, readColumns_columnRows]
  · intro h2 hv
    obtain ⟨p, q, rfl⟩ := List.length_eq_two.1 h2
    have hp := hlabels p (by simp)
    have hq := hlabels q (by simp)
    refine ⟨layout_columnRows_two hp, isAmbiguous_columnRows_two hp hq ?_⟩
    simpa using hv

theorem layouts_agree_three_pairs :
    [("Title", "The Forest"), ("Author", "<b>Ada</b>"), ("start", "Intro1")] ≠ [] ∧
      (∀ p ∈ [("Title", "The Forest"), ("Author", "<b>Ada</b>"), ("start", "Intro1")],
        (Field.ofLabel p.1).isSome) ∧
      (([("Title", "The Forest"), ("Author", "<b>Ada</b>"), ("start", "Intro1")].length ≠ 2 →
        read (Table.read (Table.write (pairRows
          [("Title", "The Forest"), ("Author", "<b>Ada</b>"), ("start", "Intro1")]))) =
        read (Table.read (Table.write (columnRows
          [("Title", "The Forest"), ("Author", "<b>Ada</b>"), ("start", "Intro1")])))) ∧
      ([("Title", "The Forest"), ("Author", "<b>Ada</b>"), ("start", "Intro1")].length = 2 →
        (∃ p ∈ [("Title", "The Forest"), ("Author", "<b>Ada</b>"), ("start", "Intro1")],
          Text.isBlankString p.2 = false) →
        layout (Table.read (Table.write (columnRows
          [("Title", "The Forest"), ("Author", "<b>Ada</b>"), ("start", "Intro1")]))) =
            .keyValue ∧
        isAmbiguous (Table.read (Table.write (columnRows
          [("Title", "The Forest"), ("Author", "<b>Ada</b>"), ("start", "Intro1")]))) = true)) :=
  ⟨by decide, by decide, layouts_agree _ (by decide) (by decide)⟩

end MetadataTab

end Novel.Story
