import Novel.Table.Write

/-!
# Reading back a written table

`write` quotes a cell exactly when reading it unquoted would change it, and a row of one empty
cell as well; `read` is a one-pass machine over the characters. The main statement is the round
trip `read (write t) = t` for every table `t` whose rows hold at least one cell each, which is
every table `read` produces.

The proof follows the reader through the written text a cell at a time. A written cell, quoted
or not, is read from a fresh draft into a draft whose characters are the cell's
(`readLoop_writeCell`); what decides this is only that the character after a cell is a comma or
a line feed, never a quote that would extend the quoted span. Rows and tables then follow by
induction, with the cells and rows already read as an accumulator.
-/

namespace Novel.Table

/-! ## The reader, one character at a time -/

theorem readLoop_plain {c : Char} {rest : List Char} {d : Draft} {row : List String}
    {rows : List Row} (h1 : c ≠ '"') (h2 : c ≠ ',') (h3 : c ≠ '\r') (h4 : c ≠ '\n') :
    readLoop false (c :: rest) d row rows = readLoop false rest (d.push c) row rows := by
  rw [readLoop.eq_def]
  split <;> simp_all

theorem readLoop_quoted_plain {c : Char} {rest : List Char} {d : Draft} {row : List String}
    {rows : List Row} (h : c ≠ '"') :
    readLoop true (c :: rest) d row rows = readLoop true rest (d.push c) row rows := by
  rw [readLoop.eq_def]
  split <;> simp_all

theorem readLoop_doubled {rest : List Char} {d : Draft} {row : List String} {rows : List Row} :
    readLoop true ('"' :: '"' :: rest) d row rows = readLoop true rest (d.push '"') row rows := by
  simp [readLoop]

theorem readLoop_close {rest : List Char} {d : Draft} {row : List String} {rows : List Row}
    (h : rest.head? ≠ some '"') :
    readLoop true ('"' :: rest) d row rows = readLoop false rest d.leave row rows := by
  rw [readLoop.eq_def]
  split <;> grind

theorem readLoop_open {rest : List Char} {d : Draft} {row : List String} {rows : List Row} :
    readLoop false ('"' :: rest) d row rows = readLoop true rest d.enter row rows := by
  simp [readLoop]

theorem readLoop_comma {rest : List Char} {d : Draft} {row : List String} {rows : List Row} :
    readLoop false (',' :: rest) d row rows = readLoop false rest {} (d.finish :: row) rows := rfl

theorem readLoop_newline {rest : List Char} {d : Draft} {row : List String} {rows : List Row} :
    readLoop false ('\n' :: rest) d row rows =
      readLoop false rest {} [] ((d.finish :: row).reverse :: rows) := by
  simp [readLoop]

/-! ## Cells -/

/-- The characters that end a cell or open quotes when read outside quotes. -/
def isSpecial (c : Char) : Bool := c == ',' || c == '"' || c == '\n' || c == '\r'

theorem needsQuotes_eq_false {cs : List Char} (h : needsQuotes cs = false) :
    (∀ c ∈ cs, isSpecial c = false) ∧ Text.trim cs = cs := by
  simp only [needsQuotes, Bool.or_eq_false_iff, List.any_eq_false, bne_eq_false_iff_eq] at h
  exact ⟨fun c hc => by simpa [isSpecial] using h.1 c hc, h.2⟩

theorem readLoop_unquoted (cs : List Char) (hcs : ∀ c ∈ cs, isSpecial c = false)
    (rest : List Char) (d : Draft) (row : List String) (rows : List Row) :
    readLoop false (cs ++ rest) d row rows =
      readLoop false rest { d with rev := cs.reverse ++ d.rev } row rows := by
  induction cs generalizing d with
  | nil => rfl
  | cons c cs ih =>
    have hc : isSpecial c = false := hcs c List.mem_cons_self
    simp only [isSpecial, Bool.or_eq_false_iff, beq_eq_false_iff_ne, ne_eq] at hc
    rw [List.cons_append, readLoop_plain hc.1.1.2 hc.1.1.1 hc.2 hc.1.2,
      ih (fun x hx => hcs x (List.mem_cons_of_mem _ hx))]
    simp [Draft.push]

theorem doubleQuotes_quote (cs : List Char) :
    doubleQuotes ('"' :: cs) = '"' :: '"' :: doubleQuotes cs := by
  simp [doubleQuotes]

theorem doubleQuotes_of_ne {c : Char} (cs : List Char) (h : c ≠ '"') :
    doubleQuotes (c :: cs) = c :: doubleQuotes cs := by
  simp [doubleQuotes, h]

theorem readLoop_doubleQuotes (cs : List Char) (rest : List Char) (hrest : rest.head? ≠ some '"')
    (d : Draft) (row : List String) (rows : List Row) :
    readLoop true (doubleQuotes cs ++ '"' :: rest) d row rows =
      readLoop false rest { d with rev := cs.reverse ++ d.rev }.leave row rows := by
  induction cs generalizing d with
  | nil => exact readLoop_close hrest
  | cons c cs ih =>
    -- a doubled quote inside quotes reads as one quote, any other character as itself
    by_cases hc : c = '"'
    · subst hc
      rw [doubleQuotes_quote, List.cons_append, List.cons_append, readLoop_doubled, ih]
      simp [Draft.push]
    · rw [doubleQuotes_of_ne cs hc, List.cons_append, readLoop_quoted_plain hc, ih]
      simp [Draft.push]

theorem chars_unquoted (cs : List Char) :
    ({ rev := cs.reverse } : Draft).chars = Text.trim cs := by
  simp [Draft.chars]

theorem chars_quoted (cs : List Char) :
    ({ rev := cs.reverse, opened := some 0, closed := cs.length } : Draft).chars = cs := by
  simp [Draft.chars, Text.trimStart, Text.trimEnd]

/-- **A written cell reads back as itself.** Whether it was quoted or not, reading it from a
fresh cell leaves a draft whose characters are the cell's, as long as what follows it cannot
continue a quoted span. -/
theorem readLoop_writeCell (lone : Bool) (cs rest : List Char) (hrest : rest.head? ≠ some '"')
    (row : List String) (rows : List Row) :
    ∃ d : Draft, d.chars = cs ∧
      readLoop false (writeCell lone cs ++ rest) {} row rows = readLoop false rest d row rows := by
  unfold writeCell
  split
  · refine ⟨{ rev := cs.reverse, opened := some 0, closed := cs.length }, chars_quoted cs, ?_⟩
    simp only [List.cons_append, List.append_assoc, List.nil_append]
    rw [readLoop_open, readLoop_doubleQuotes cs rest hrest]
    simp [Draft.enter, Draft.leave, Text.allBlank]
  · rename_i hq
    have hnq : needsQuotes cs = false := by simp_all
    obtain ⟨hspecial, htrim⟩ := needsQuotes_eq_false hnq
    refine ⟨{ rev := cs.reverse }, by rw [chars_unquoted, htrim], ?_⟩
    rw [readLoop_unquoted cs hspecial]
    simp

theorem writeCells_cons_cons (lone : Bool) (c c' : List Char) (cs : List (List Char)) :
    writeCells lone (c :: c' :: cs) = writeCell lone c ++ ',' :: writeCells lone (c' :: cs) := rfl

/-! ## Rows and tables -/

/-- The cells of a row, written and followed by a line feed, read back as one row after the
cells already read. -/
theorem readLoop_writeCells (lone : Bool) (cells : List (List Char)) (hne : cells ≠ [])
    (rest : List Char) (acc : List String) (rows : List Row) :
    readLoop false (writeCells lone cells ++ '\n' :: rest) {} acc rows =
      readLoop false rest {} [] ((acc.reverse ++ cells.map String.ofList) :: rows) := by
  induction cells generalizing acc with
  | nil => exact absurd rfl hne
  | cons c cs ih =>
    cases cs with
    | nil =>
      obtain ⟨d, hd, hread⟩ := readLoop_writeCell lone c ('\n' :: rest) (by simp) acc rows
      rw [writeCells, hread, readLoop_newline]
      simp [Draft.finish, hd]
    | cons c' cs =>
      obtain ⟨d, hd, hread⟩ := readLoop_writeCell lone c
        (',' :: (writeCells lone (c' :: cs) ++ '\n' :: rest)) (by simp) acc rows
      rw [writeCells_cons_cons, List.append_assoc, List.cons_append, hread, readLoop_comma,
        ih (List.cons_ne_nil _ _) (d.finish :: acc)]
      simp [Draft.finish, hd]

theorem readLoop_writeRow (row : Row) (hrow : row ≠ []) (rest : List Char) (rows : List Row) :
    readLoop false (writeRow row ++ rest) {} [] rows = readLoop false rest {} [] (row :: rows) := by
  rw [writeRow, List.append_assoc, List.singleton_append,
    readLoop_writeCells _ _ (by simpa using hrow)]
  simp [Function.comp_def, String.ofList_toList]

/-- A written table reads back as its rows, after the rows already read. -/
theorem readLoop_writeChars (table : List Row) (htable : ∀ r ∈ table, r ≠ [])
    (rest : List Char) (rows : List Row) :
    readLoop false (writeChars table ++ rest) {} [] rows =
      readLoop false rest {} [] (table.reverse ++ rows) := by
  induction table generalizing rows with
  | nil => rfl
  | cons r table ih =>
    rw [writeChars, List.map_cons, List.flatten_cons, List.append_assoc,
      readLoop_writeRow r (htable r List.mem_cons_self),
      ← writeChars, ih (fun x hx => htable x (List.mem_cons_of_mem _ hx))]
    simp

/-- **Reading what was written gives the rows back**, for rows of at least one cell. -/
theorem read_write (table : List Row) (htable : ∀ r ∈ table, r ≠ []) :
    read (write table) = table := by
  have h := readLoop_writeChars table htable [] []
  rw [List.append_nil, List.append_nil] at h
  rw [read, write, String.toList_ofList, readChars, h]
  simp [readLoop, Draft.touched]

/-! ## The round trip -/

theorem finished_rows_ne_nil {cell : String} {row : List String} {rows : List Row}
    (h : ∀ r ∈ rows, r ≠ []) : ∀ r ∈ (cell :: row).reverse :: rows, r ≠ [] := by
  intro r hr
  rcases List.mem_cons.1 hr with rfl | hr
  · simp
  · exact h r hr

/-- Every row the reader finishes holds at least one cell. -/
theorem readLoop_rows_ne_nil (quoted : Bool) (cs : List Char) (d : Draft) (row : List String)
    (rows : List Row) (hrows : ∀ r ∈ rows, r ≠ []) :
    ∀ r ∈ readLoop quoted cs d row rows, r ≠ [] := by
  fun_induction readLoop quoted cs d row rows with
  -- a line break finishes a row, which holds at least the cell it ended
  | case6 _ _ _ _ ih | case7 _ _ _ _ _ ih | case8 _ _ _ _ ih =>
    exact ih (finished_rows_ne_nil hrows)
  | case10 =>
    intro r hr
    exact finished_rows_ne_nil hrows r (List.mem_reverse.1 hr)
  | case11 =>
    intro r hr
    exact hrows r (List.mem_reverse.1 hr)
  | case1 _ _ _ _ ih | case2 _ _ _ _ _ ih | case3 _ _ _ _ _ _ _ ih | case4 _ _ _ _ ih
  | case5 _ _ _ _ ih | case9 _ _ _ _ _ _ _ _ _ _ ih => exact ih hrows

theorem read_rows_ne_nil (s : String) : ∀ r ∈ read s, r ≠ [] :=
  readLoop_rows_ne_nil false s.toList {} [] [] (by simp)

/-- **Writing then reading gives the same rows back.** For every table whose rows have a cell
each, reading its text gives the table; since every table read from text is such a table,
reading again what was written of a read table changes nothing, and writing again what was
read of a written table gives the same text. -/
theorem read_write_round_trip :
    (∀ table : List Row, (∀ r ∈ table, r ≠ []) → read (write table) = table) ∧
    (∀ s : String, read (write (read s)) = read s) ∧
    (∀ table : List Row, (∀ r ∈ table, r ≠ []) →
      write (read (write table)) = write table) :=
  ⟨read_write,
   fun s => read_write (read s) (read_rows_ne_nil s),
   fun table h => by rw [read_write table h]⟩

theorem read_write_round_trip_quoted :
    (∀ r ∈ [["a,b", " pad ", "say \"hi\""], [""], ["x\r\ny", ""]], r ≠ []) ∧
      read (write [["a,b", " pad ", "say \"hi\""], [""], ["x\r\ny", ""]]) =
        [["a,b", " pad ", "say \"hi\""], [""], ["x\r\ny", ""]] :=
  ⟨by decide, read_write_round_trip.1 _ (by decide)⟩

end Novel.Table
