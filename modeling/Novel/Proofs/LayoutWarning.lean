import Novel.Proofs.MetadataLayouts
import Novel.Proofs.BookLoading

/-!
# When the ambiguous layout is reported

A metadata tab with two rows that is read as key/value might have been meant as columns: a row
of labels over a row of values. The tab is reported as ambiguous only when the first two cells
of its first row are both labels. Loading a book reports it, once the story tab has its rows,
whether or not the metadata is then refused.

So not every tab that the two readings read differently is reported. A first row that starts
with the header word `key`, or whose second cell is no label, is read as key/value without a
word: `title,Notes` over `The Forest,Ada` gives the title `Notes`, where its columns give
`The Forest` (`notes_header_misread_silently`).

Main statement: `ambiguousLayout_iff_two_labels`.
-/

namespace Novel.Story

namespace MetadataTab

/-- Of two rows read as key/value, the tab is ambiguous exactly when its first row starts with
two labels. -/
theorem isAmbiguous_iff_two_labels {rows : List Table.Row}
    (h2 : (rows.filter (fun r => !isBlankRow r)).length = 2) (hkv : layout rows = .keyValue) :
    isAmbiguous rows = true ↔ ∀ c ∈ (rows.headD []).take 2, (Field.ofLabel c).isSome := by
  simp [isAmbiguous, h2, hkv]

end MetadataTab

namespace Book

/-- Once the story tab has its rows, loading reports the ambiguous layout exactly when the
metadata tab is ambiguous: every later event reports a node, the start node or the loaded
story. -/
theorem ambiguousLayout_mem_ofSheets {story metadata : String}
    (hstory : 2 ≤ (Table.read story).length) :
    Event.ambiguousLayout ∈ (ofSheets story metadata).1 ↔
      MetadataTab.isAmbiguous (Table.read metadata) = true := by
  have hl := loading_ofSheets story metadata
  generalize ofSheets story metadata = out at hl ⊢
  cases hl with
  | missingRows h => omega
  | missingTitle | emptyStory =>
    by_cases h : MetadataTab.isAmbiguous (Table.read metadata) = true <;> simp [layoutNotice, h]
  | unknownStart | loaded =>
    by_cases h : MetadataTab.isAmbiguous (Table.read metadata) = true <;>
      simp [layoutNotice, duplicateReports, h]

end Book

open MetadataTab in
/-- **The ambiguous layout is reported exactly for a first row of two labels.** Of every tab
with two rows that are not blank and that is read as key/value, the tab is ambiguous, and
loading a book with a story tab of rows reports it, exactly when the first two cells of the
first row are both labels. -/
theorem ambiguousLayout_iff_two_labels :
    (∀ rows : List Table.Row, (rows.filter (fun r => !isBlankRow r)).length = 2 →
      layout rows = .keyValue →
      (isAmbiguous rows = true ↔ ∀ c ∈ (rows.headD []).take 2, (Field.ofLabel c).isSome)) ∧
    (∀ story metadata : String, 2 ≤ (Table.read story).length →
      ((Table.read metadata).filter (fun r => !isBlankRow r)).length = 2 →
      layout (Table.read metadata) = .keyValue →
      (Event.ambiguousLayout ∈ (Book.ofSheets story metadata).1 ↔
        ∀ c ∈ ((Table.read metadata).headD []).take 2, (Field.ofLabel c).isSome)) :=
  ⟨fun _ h2 hkv => isAmbiguous_iff_two_labels h2 hkv,
    fun _ _ hstory h2 hkv =>
      (Book.ambiguousLayout_mem_ofSheets hstory).trans (isAmbiguous_iff_two_labels h2 hkv)⟩

/-- Two labels over two values, loaded with a story tab of a header and one row, are reported. -/
theorem two_labels_reported :
    2 ≤ (Table.read "id,text\na,Hi\n").length ∧
      ((Table.read "Title,Author\nThe Forest,Ada\n").filter
        (fun r => !MetadataTab.isBlankRow r)).length = 2 ∧
      MetadataTab.layout (Table.read "Title,Author\nThe Forest,Ada\n") = .keyValue ∧
      (Event.ambiguousLayout ∈
          (Book.ofSheets "id,text\na,Hi\n" "Title,Author\nThe Forest,Ada\n").1 ↔
        ∀ c ∈ ((Table.read "Title,Author\nThe Forest,Ada\n").headD []).take 2,
          (Field.ofLabel c).isSome) :=
  have hstory : 2 ≤ (Table.read "id,text\na,Hi\n").length := by decide +kernel
  have h2 : ((Table.read "Title,Author\nThe Forest,Ada\n").filter
      (fun r => !MetadataTab.isBlankRow r)).length = 2 := by decide +kernel
  have hkv : MetadataTab.layout (Table.read "Title,Author\nThe Forest,Ada\n") = .keyValue := by
    decide +kernel
  ⟨hstory, h2, hkv, ambiguousLayout_iff_two_labels.2 _ _ hstory h2 hkv⟩

open MetadataTab in
/-- A label over a word that is no label, read as key/value: the tab's two readings give the
titles `Notes` and `The Forest`, and it is not reported. -/
theorem notes_header_misread_silently :
    Table.read "title,Notes\nThe Forest,Ada\n" = [["title", "Notes"], ["The Forest", "Ada"]] ∧
      (([["title", "Notes"], ["The Forest", "Ada"]] : List Table.Row).filter
        (fun r => !isBlankRow r)).length = 2 ∧
      layout [["title", "Notes"], ["The Forest", "Ada"]] = .keyValue ∧
      (readPairs [["title", "Notes"], ["The Forest", "Ada"]]).title = "Notes" ∧
      (readColumns [["title", "Notes"], ["The Forest", "Ada"]]).title = "The Forest" ∧
      isAmbiguous [["title", "Notes"], ["The Forest", "Ada"]] = false := by
  decide +kernel

end Novel.Story
