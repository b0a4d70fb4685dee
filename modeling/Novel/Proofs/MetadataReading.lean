import Mathlib.Data.List.Induction
import Novel.Proofs.MetadataLayouts

/-!
# What a metadata tab says

Reading a metadata tab gives, for each field, the last value written for it: in a key/value tab
the rows are read top to bottom, each a label and a value; in a columnar tab the labels of the
first row are read left to right, each with the value below it. A value is stripped of markup
first, and a value that strips to nothing is skipped, so an earlier value for the same field
stands. The tab is refused exactly when no title is found.

`lastValue` states this without the fold the reader runs: the value of a field is the stripped
value of the last entry, under one of the field's labels, that does not strip to nothing. The
reader's fold agrees with it one entry at a time (`field?_setLabelled`), the way a running record
agrees with a search of the whole history from its end.

Every value that comes out is stripped, so it has no blanks at its ends and stripping it again
changes nothing: what stripping leaves has no `<` before a `>` (`untagged_dropTags`), and such a
text has no tag left to strip (`dropTags_of_untagged`).
-/

/-! ## Stripping twice -/

namespace Novel.Text

theorem mem_of_afterClose : ∀ {cs after : List Char}, afterClose cs = some after → '>' ∈ cs
  | [], _, h => by simp [afterClose] at h
  | c :: rest, after, h => by
    unfold afterClose at h
    split at h
    · rename_i hc
      exact List.mem_cons.2 (.inl (beq_iff_eq.1 hc).symm)
    · exact List.mem_cons_of_mem _ (mem_of_afterClose h)

theorem not_mem_of_afterClose_eq_none : ∀ {cs : List Char}, afterClose cs = none → '>' ∉ cs
  | [], _ => List.not_mem_nil
  | c :: rest, h => by
    unfold afterClose at h
    split at h
    · cases h
    · rename_i hc
      intro hmem
      rcases List.mem_cons.1 hmem with heq | hmem
      · exact hc (beq_iff_eq.2 heq.symm)
      · exact not_mem_of_afterClose_eq_none h hmem

/-- A text with no `<` before a `>` has no tag to delete. -/
theorem dropTags_of_untagged (cs : List Char) (h : ¬ List.Sublist ['<', '>'] cs) :
    dropTags cs = cs := by
  fun_induction dropTags cs with
  | case1 => rfl
  | case2 c rest hc after hafter _ =>
    -- a `>` after the `<` makes a closed tag
    exfalso
    apply h
    rw [beq_iff_eq.1 hc]
    exact List.Sublist.cons_cons _ (List.singleton_sublist.2 (mem_of_afterClose hafter))
  | case3 => rfl
  | case4 c rest _ ih => rw [ih fun hs => h (hs.cons c)]

/-- What deleting tags leaves has no `<` before a `>`. -/
theorem untagged_dropTags (cs : List Char) : ¬ List.Sublist ['<', '>'] (dropTags cs) := by
  fun_induction dropTags cs with
  | case1 => simp
  | case2 _ _ _ _ _ ih => exact ih
  | case3 c rest hc hnone =>
    -- the `<` is kept only when no `>` follows it
    intro hs
    have hmem : '>' ∈ c :: rest := hs.subset (by simp)
    rcases List.mem_cons.1 hmem with heq | hmem
    · rw [beq_iff_eq.1 hc] at heq
      cases heq
    · exact not_mem_of_afterClose_eq_none hnone hmem
  | case4 c rest hc ih =>
    intro hs
    rcases List.sublist_cons_iff.1 hs with hs | ⟨r, hr, _⟩
    · exact ih hs
    · -- the pair would have to start at this character, which is not a `<`
      obtain ⟨hlt, -⟩ := List.cons.inj hr
      subst hlt
      exact hc rfl

theorem trim_sublist (cs : List Char) : List.Sublist (trim cs) cs :=
  (List.rdropWhile_prefix isBlank (trimStart cs)).sublist.trans (List.dropWhile_suffix _).sublist

/-- **Stripping markup twice strips no more than once.** -/
theorem stripTags_stripTags (s : String) : stripTags (stripTags s) = stripTags s := by
  have huntagged : ¬ List.Sublist ['<', '>'] (trim (dropTags s.toList)) :=
    fun h => untagged_dropTags _ (h.trans (trim_sublist _))
  simp only [stripTags, String.toList_ofList, dropTags_of_untagged _ huntagged, trim_trim]

theorem trimString_stripTags (s : String) : trimString (stripTags s) = stripTags s := by
  simp [trimString, stripTags, trim_trim]

end Novel.Text

namespace Novel.Story

/-! ## Fields of the metadata -/

/-- The value of a field: the title when it is not empty, the other fields as they are. -/
def Metadata.field? (m : Metadata) : Field → Option String
  | .title => if m.title = "" then none else some m.title
  | .author => m.author
  | .description => m.description
  | .startNode => m.startNode
  | .credits => m.credits
  | .about => m.about
  | .theme => m.theme
  | .version => m.version

namespace Metadata

theorem field?_set (m : Metadata) (f g : Field) (v : String) :
    (m.set f v).field? g = if g = f ∧ v ≠ "" then some v else m.field? g := by
  by_cases hv : v = ""
  · simp [set, hv]
  · cases f <;> cases g <;> simp [set, field?, hv]

/-- Metadata is known by the values of its fields. -/
theorem eq_of_field? {m m' : Metadata} (h : ∀ f, m.field? f = m'.field? f) : m = m' := by
  have htitle : m.title = m'.title := by
    have ht := h .title
    simp only [field?] at ht
    by_cases h₁ : m.title = "" <;> by_cases h₂ : m'.title = "" <;> simp_all
  have h₁ := h .author
  have h₂ := h .description
  have h₃ := h .startNode
  have h₄ := h .credits
  have h₅ := h .about
  have h₆ := h .theme
  have h₇ := h .version
  cases m
  cases m'
  simp_all [field?]

end Metadata

/-! ## The last value of a field -/

namespace MetadataTab

/-- The value an entry of a label and a value gives a field: the value stripped of markup, when
the label names the field and the stripped value is not empty. -/
def entryValue (f : Field) (e : String × String) : Option String :=
  if Field.ofLabel e.1 = some f ∧ Text.stripTags e.2 ≠ "" then some (Text.stripTags e.2) else none

/-- The value entries give a field: that of the last entry that gives it one. -/
def lastValue (f : Field) (entries : List (String × String)) : Option String :=
  entries.reverse.findSome? (entryValue f)

theorem lastValue_append_singleton (f : Field) (entries : List (String × String))
    (e : String × String) :
    lastValue f (entries ++ [e]) = (entryValue f e).or (lastValue f entries) := by
  simp only [lastValue, List.reverse_append, List.reverse_cons, List.reverse_nil, List.nil_append,
    List.findSome?_append, List.findSome?_singleton]

/-- Setting a labelled value is one step of the search from the end. -/
theorem field?_setLabelled (m : Metadata) (label value : String) (f : Field) :
    (setLabelled m label value).field? f = (entryValue f (label, value)).or (m.field? f) := by
  unfold setLabelled
  cases hl : Field.ofLabel label with
  | none => simp [entryValue, hl]
  | some g =>
    rw [Metadata.field?_set]
    by_cases hfg : f = g
    · subst hfg
      by_cases hv : Text.stripTags value = "" <;> simp [entryValue, hl, hv]
    · have hgf : g ≠ f := Ne.symm hfg
      simp [entryValue, hl, hfg, hgf]

/-- **Pairs set in order give each field its last value.** -/
theorem ofPairs_field? (pairs : List (String × String)) (f : Field) :
    (ofPairs pairs).field? f = lastValue f pairs := by
  induction pairs using List.reverseRecOn with
  | nil => simp [ofPairs, lastValue, Metadata.field?]; cases f <;> rfl
  | append_singleton pairs p ih =>
    rw [ofPairs, List.foldl_append, List.foldl_cons, List.foldl_nil, ← ofPairs,
      field?_setLabelled, ih, lastValue_append_singleton]

/-! ## The entries of each layout -/

/-- A row that a key/value reading looks at: its first cell, trimmed, is neither empty nor the
header word `key` in any case. -/
def IsPairRow (row : Table.Row) : Prop :=
  Text.trim (row.headD "").toList ≠ [] ∧
    Text.equalsIgnoringAsciiCase (Text.trim (row.headD "").toList) "key".toList = false

instance : DecidablePred IsPairRow := fun _ => inferInstanceAs (Decidable (_ ∧ _))

/-- The entries of a key/value reading: each row looked at gives its trimmed first cell as the
label and its second cell, or nothing, as the value. -/
def pairEntries (rows : List Table.Row) : List (String × String) :=
  (rows.filter (IsPairRow ·)).map fun row =>
    (String.ofList (Text.trim (row.headD "").toList), row.getD 1 "")

/-- The entries of a columnar reading: each cell of the first row, left to right, as a label,
with the cell at the same place in the second row, or nothing, as the value. -/
def columnEntries : List Table.Row → List (String × String)
  | [] => []
  | labels :: rest => labels.zipIdx.map fun p => (p.1, (rest.headD []).getD p.2 "")

/-- The entries of the reading a tab's layout chooses. -/
def entriesOf (rows : List Table.Row) : List (String × String) :=
  match layout rows with
  | .keyValue => pairEntries rows
  | .columnar => columnEntries rows

theorem readPairs_eq_ofPairs (rows : List Table.Row) :
    readPairs rows = ofPairs (pairEntries rows) := by
  rw [readPairs, ofPairs, pairEntries, List.foldl_map, List.foldl_filter]
  apply List.foldl_ext
  intro m row _
  dsimp only
  by_cases hrow : IsPairRow row
  · -- a row looked at sets the field its trimmed label names
    have hlooked : ((Text.trim (row.headD "").toList).isEmpty ||
        Text.equalsIgnoringAsciiCase (Text.trim (row.headD "").toList) "key".toList) = false :=
      Bool.or_eq_false_iff.2 ⟨List.isEmpty_eq_false_iff.2 hrow.1, hrow.2⟩
    rw [if_neg (by rw [hlooked]; decide), if_pos (decide_eq_true hrow)]
    unfold setLabelled
    cases Field.ofLabel (String.ofList (Text.trim (row.headD "").toList)) <;> rfl
  · have hskipped : ((Text.trim (row.headD "").toList).isEmpty ||
        Text.equalsIgnoringAsciiCase (Text.trim (row.headD "").toList) "key".toList) = true := by
      rw [Bool.or_eq_true]
      by_contra hlooked
      rw [not_or, Bool.not_eq_true, Bool.not_eq_true] at hlooked
      exact hrow ⟨List.isEmpty_eq_false_iff.1 hlooked.1, hlooked.2⟩
    rw [if_pos hskipped, if_neg (by simpa using hrow)]

theorem readColumns_eq_ofPairs (rows : List Table.Row) :
    readColumns rows = ofPairs (columnEntries rows) := by
  cases rows with
  | nil => rfl
  | cons labels rest =>
    rw [readColumns, columnEntries, ofPairs, List.foldl_map]
    apply List.foldl_ext
    intro m p _
    obtain ⟨label, i⟩ := p
    -- the value below a label is the cell at its place in the second row, or nothing
    have hvalue : (rest.head?.bind (·[i]?)).getD "" = (rest.headD []).getD i "" := by
      cases rest <;> simp [List.getD_eq_getElem?_getD]
    unfold setLabelled
    cases hl : Field.ofLabel label <;> simp only [hl, hvalue]

/-- Either layout reads as its entries set in order, and is refused when that gives no
title. -/
theorem read_eq (rows : List Table.Row) :
    read rows = if (ofPairs (entriesOf rows)).title.isEmpty then .error .missingTitle
      else .ok (ofPairs (entriesOf rows)) := by
  unfold read entriesOf
  cases layout rows with
  | keyValue => rw [readPairs_eq_ofPairs]
  | columnar => rw [readColumns_eq_ofPairs]

/-- A value that some entry gives a field is stripped and not empty. -/
theorem lastValue_stripped {f : Field} {entries : List (String × String)} {v : String}
    (h : lastValue f entries = some v) :
    v ≠ "" ∧ Text.trimString v = v ∧ Text.stripTags v = v := by
  obtain ⟨e, -, he⟩ := List.exists_of_findSome?_eq_some h
  unfold entryValue at he
  split at he
  · rename_i hcond
    cases he
    exact ⟨hcond.2, Text.trimString_stripTags _, Text.stripTags_stripTags _⟩
  · cases he

/-- **Reading a metadata tab.** The tab reads to metadata `m` exactly when a title is found,
and then every field of `m` holds the last value written for it in the layout the tab is read
with (no value when there is none); it is refused for a missing title exactly when no title is
found; and every value read is not empty, trimmed and free of markup to strip. -/
theorem read_gives_last_values (rows : List Table.Row) :
    (∀ m, read rows = .ok m ↔
        (lastValue .title (entriesOf rows)).isSome ∧ ∀ f, m.field? f = lastValue f (entriesOf rows)) ∧
      (read rows = .error .missingTitle ↔ lastValue .title (entriesOf rows) = none) ∧
      (∀ m, read rows = .ok m → ∀ f v, m.field? f = some v →
        v ≠ "" ∧ Text.trimString v = v ∧ Text.stripTags v = v) := by
  have hfields := ofPairs_field? (entriesOf rows)
  rw [read_eq]
  -- the metadata the entries give, before its title is checked
  generalize ofPairs (entriesOf rows) = r at hfields
  have htitle : lastValue .title (entriesOf rows) = if r.title = "" then none else some r.title := by
    rw [← hfields]
    rfl
  by_cases ht : r.title = ""
  · -- no title was found, and the tab is refused
    have hnone : lastValue .title (entriesOf rows) = none := by rw [htitle, if_pos ht]
    simp [String.isEmpty_iff.2 ht, hnone]
  · have hsome : lastValue .title (entriesOf rows) = some r.title := by rw [htitle, if_neg ht]
    have hfull : r.title.isEmpty = false := by simpa [String.isEmpty_iff] using ht
    simp only [hfull, Bool.false_eq_true, if_false, hsome, Option.isSome_some, true_and]
    refine ⟨fun m => ⟨fun h => ?_, fun hm => ?_⟩, by simp, fun m h f v hv => ?_⟩
    · cases h
      exact hfields
    · rw [Metadata.eq_of_field? fun f => (hfields f).trans (hm f).symm]
    · cases h
      exact lastValue_stripped ((hfields f).symm.trans hv)

end MetadataTab

end Novel.Story
