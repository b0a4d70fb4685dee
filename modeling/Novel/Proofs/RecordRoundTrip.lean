import Novel.Save.Text
import Novel.Proofs.InstantRoundTrip

/-!
# Reading back the text of a save record

The text of a record reads back as the record, for every record whose instant a clock can show
within the calendar's range.

The reader takes what the printer writes piece by piece:

* a quoted string reads back as the string, one escaped character at a time: each escape the
  printer writes, the short ones and the `\u00XX` of the other control characters, is one the
  reader undoes;
* the blanks of the indentation are skipped wherever the reader looks for a token;
* an array of strings is read item by item, each item after its comma;
* the object's members come in the order of the fields, none twice, so the draft fills up and
  finishes as the record.

The readers of arrays and objects run on fuel, the length of what follows the opening bracket.
Every item and every member takes at least one character, so the fuel lasts.
-/

namespace Novel.Json

/-! ## Strings -/

theorem hexDigit_digitChar : ∀ n : Nat, n < 16 → hexDigit? (Nat.digitChar n) = some n := by
  decide

theorem readString_plain {c : Char} (acc rest : List Char) (hq : c ≠ '"') (hb : c ≠ '\\')
    (hc : ¬ c.toNat < 0x20) : readString acc (c :: rest) = readString (c :: acc) rest := by
  -- the last arm: every arm before it starts with a quote or a backslash
  rw [readString.eq_7 acc c rest hq (fun _ _ _ _ _ h _ => hb h) (fun _ h _ => hb h)
    (fun h _ => hb h) (fun _ _ h _ => hb h), if_neg hc]

/-- The reader undoes each escape the printer writes. -/
theorem readString_escapeChar (c : Char) (acc rest : List Char) :
    readString acc (escapeChar c ++ rest) = readString (c :: acc) rest := by
  unfold escapeChar
  split
  · rename_i h; simp only [beq_iff_eq] at h; subst h; simp [readString, shortEscape]
  split
  · rename_i h; simp only [beq_iff_eq] at h; subst h; simp [readString, shortEscape]
  split
  · rename_i h; simp only [beq_iff_eq] at h; subst h; simp [readString, shortEscape]
  split
  · rename_i h; simp only [beq_iff_eq] at h; subst h; simp [readString, shortEscape]
  split
  · rename_i h; simp only [beq_iff_eq] at h; subst h; simp [readString, shortEscape]
  split
  · rename_i h
    have : c = '\x08' := Char.toNat_inj.mp (by simpa using h)
    subst this; simp [readString, shortEscape]
  split
  · rename_i h
    have : c = '\x0c' := Char.toNat_inj.mp (by simpa using h)
    subst this; simp [readString, shortEscape]
  split
  · rename_i h
    -- a control character is written as four hex digits, the first two zero
    have hquad : hexQuad? '0' '0' (Nat.digitChar (c.toNat / 16)) (Nat.digitChar (c.toNat % 16)) =
        some c.toNat := by
      simp only [hexQuad?, hexDigit_digitChar _ (show c.toNat / 16 < 16 by omega),
        hexDigit_digitChar _ (show c.toNat % 16 < 16 by omega)]
      simp [hexDigit?]
      omega
    have hlow : isLowSurrogate c.toNat = false := by simp [isLowSurrogate]; omega
    have hhigh : isHighSurrogate c.toNat = false := by simp [isHighSurrogate]; omega
    simp only [List.cons_append, List.nil_append]
    rw [readString, hquad]
    simp [hlow, hhigh]
  · rename_i h1 h2 h3 h4 h5 h6 h7 h8
    simp only [beq_iff_eq] at h1 h2
    exact readString_plain acc rest h1 h2 h8

/-- The escaped characters of a string, then the closing quote, read back as the string. -/
theorem readString_escaped (s acc rest : List Char) :
    readString acc ((s.map escapeChar).flatten ++ '"' :: rest) =
      .ok (String.ofList (acc.reverse ++ s), rest) := by
  induction s generalizing acc with
  | nil => simp [readString]
  | cons c s ih =>
    rw [List.map_cons, List.flatten_cons, List.append_assoc, readString_escapeChar, ih]
    simp

theorem quote_append (s : String) (rest : List Char) :
    quote s ++ rest = '"' :: ((s.toList.map escapeChar).flatten ++ '"' :: rest) := by
  simp [quote]

/-! ## Blanks -/

theorem skipBlank_cons {c : Char} (cs : List Char) (h : isBlank c = false) :
    skipBlank (c :: cs) = c :: cs := by
  simp [skipBlank, h]

theorem skipBlank_newline (d : Nat) (cs : List Char) : skipBlank (newline d ++ cs) = skipBlank cs :=
  List.dropWhile_append_of_pos (by
    intro c hc
    simp only [newline, List.mem_cons, List.mem_replicate] at hc
    rcases hc with rfl | ⟨-, rfl⟩ <;> decide)

theorem skipBlank_quote (s : String) (rest : List Char) :
    skipBlank (quote s ++ rest) = quote s ++ rest := by
  rw [quote_append, skipBlank_cons _ (by decide)]

end Novel.Json

namespace Novel.Save

open Novel.Json Novel.Time

/-! ## Strings and arrays of strings -/

theorem readText_of_skipBlank {cs rest : List Char} {s : String}
    (h : skipBlank cs = quote s ++ rest) : readText cs = .ok (s, rest) := by
  rw [readText, h, quote_append]
  simp [readString_escaped]

/-- The first item of an array, on its own line. -/
theorem nextElement_first (d : Nat) (x : String) (rest : List Char) :
    nextElement true readText (newline d ++ quote x ++ rest) = .ok (some x, rest) := by
  have hread := readText_of_skipBlank (skipBlank_quote x rest)
  obtain ⟨q, hq⟩ : ∃ q, quote x ++ rest = '"' :: q := ⟨_, quote_append x rest⟩
  rw [hq] at hread
  simp [nextElement, skipBlank_newline, List.append_assoc, hq, @skipBlank_cons '"' _ (by decide),
    hread, Except.map]

/-- A later item of an array, after its comma, on its own line. -/
theorem nextElement_next (d : Nat) (x : String) (rest : List Char) :
    nextElement false readText (',' :: (newline d ++ quote x ++ rest)) = .ok (some x, rest) := by
  have hread := readText_of_skipBlank (skipBlank_quote x rest)
  obtain ⟨q, hq⟩ : ∃ q, quote x ++ rest = '"' :: q := ⟨_, quote_append x rest⟩
  rw [hq] at hread
  simp [nextElement, skipBlank_newline, List.append_assoc, hq, @skipBlank_cons ',' _ (by decide),
    @skipBlank_cons '"' _ (by decide), hread, Except.map]

theorem nextElement_close (first : Bool) (d : Nat) (rest : List Char) :
    nextElement first readText (newline d ++ ']' :: rest) = .ok (none, ']' :: rest) := by
  simp [nextElement, skipBlank_newline, @skipBlank_cons ']' _ (by decide)]

/-- The items of an array after its first, each after a comma on its own line. -/
def laterItems (d : Nat) (xs : List String) : List Char :=
  xs.flatMap (fun x => ',' :: (newline d ++ quote x))

theorem laterItems_cons (d : Nat) (x : String) (xs : List String) :
    laterItems d (x :: xs) = ',' :: (newline d ++ quote x ++ laterItems d xs) := by
  simp [laterItems]

theorem length_le_laterItems (d : Nat) (xs : List String) :
    xs.length ≤ (laterItems d xs).length := by
  induction xs with
  | nil => simp [laterItems]
  | cons x xs ih =>
    simp only [laterItems, List.flatMap_cons, List.length_append, List.length_cons] at ih ⊢
    omega

theorem prettyItems_strs (d : Nat) (x : String) (xs : List String) :
    prettyItems d (Value.str x :: xs.map Value.str) = newline d ++ quote x ++ laterItems d xs := by
  induction xs generalizing x with
  | nil => simp [prettyItems, pretty, laterItems]
  | cons y ys ih =>
    rw [List.map_cons, prettyItems, ih, laterItems_cons]
    · simp [pretty]
    · exact List.cons_ne_nil _ _

/-- The later items of an array read back one by one, while the fuel lasts. -/
theorem listItems_later (d : Nat) (xs : List String) (fuel : Nat) (acc : List String)
    (rest : List Char) (hfuel : xs.length < fuel) :
    listItems fuel false acc (laterItems (d + 1) xs ++ newline d ++ ']' :: rest) =
      .ok (acc.reverse ++ xs, ']' :: rest) := by
  induction xs generalizing fuel acc with
  | nil =>
    obtain ⟨f, rfl⟩ : ∃ f, fuel = f + 1 := ⟨fuel - 1, by simp at hfuel; omega⟩
    simp [listItems, laterItems, nextElement_close, except_ok_bind]
    rfl
  | cons x xs ih =>
    obtain ⟨f, rfl⟩ : ∃ f, fuel = f + 1 := ⟨fuel - 1, by simp at hfuel; omega⟩
    have hnext := nextElement_next (d + 1) x (laterItems (d + 1) xs ++ newline d ++ ']' :: rest)
    rw [laterItems_cons, listItems]
    simp only [List.append_assoc, List.cons_append] at hnext ih ⊢
    rw [hnext, except_ok_bind]
    simp only
    rw [ih f (x :: acc) (by simp at hfuel; omega)]
    simp

/-- An array of strings, after blanks, reads back as its strings. -/
theorem readTextList_of_skipBlank {cs rest : List Char} {d : Nat} {xs : List String}
    (h : skipBlank cs = pretty d (Value.strs xs) ++ rest) : readTextList cs = .ok (xs, rest) := by
  rw [readTextList, h]
  cases xs with
  | nil =>
    simp [Value.strs, pretty, listItems, nextElement, closeList, @skipBlank_cons ']' _ (by decide),
      except_ok_bind]
  | cons x xs =>
    have hp : pretty d (Value.strs (x :: xs)) ++ rest = '[' ::
        (newline (d + 1) ++ quote x ++ laterItems (d + 1) xs ++ newline d ++ ']' :: rest) := by
      simp [Value.strs, pretty, prettyItems_strs]
    have hfirst := nextElement_first (d + 1) x (laterItems (d + 1) xs ++ newline d ++ ']' :: rest)
    have hlater := listItems_later d xs
    have hlen := length_le_laterItems (d + 1) xs
    rw [hp]
    simp only [List.append_assoc] at hfirst hlater ⊢
    simp only [listItems, hfirst, except_ok_bind]
    rw [hlater _ _ _ (by simp only [List.length_append, List.length_cons]; omega)]
    simp [closeList, @skipBlank_cons ']' _ (by decide), except_ok_bind]

/-- An instant, written as a string, after blanks reads back as the instant. -/
theorem readTime_of_skipBlank {cs rest : List Char} {t : Instant} (hwf : t.WellFormed)
    (hin : t.inRange = true) (h : skipBlank cs = quote t.rfc3339 ++ rest) :
    readTime cs = .ok (t, rest) := by
  rw [readTime, h, quote_append]
  simp [readString_escaped, readInstant_rfc3339_of_inRange hwf hin, except_ok_bind]
  rfl

/-! ## The members of an object -/

theorem nextKey_first (d : Nat) (k : String) (rest : List Char) :
    nextKey true (newline d ++ (quote k ++ rest)) = .ok (some k, rest) := by
  rw [nextKey, skipBlank_newline, skipBlank_quote, quote_append]
  simp [readString_escaped, Except.map]

theorem nextKey_next (d : Nat) (k : String) (rest : List Char) :
    nextKey false (',' :: (newline d ++ (quote k ++ rest))) = .ok (some k, rest) := by
  rw [nextKey, @skipBlank_cons ',' _ (by decide)]
  simp only
  rw [skipBlank_newline, skipBlank_quote, quote_append]
  simp [readString_escaped, Except.map]

theorem nextKey_close (d : Nat) (rest : List Char) :
    nextKey false (newline d ++ '\x7d' :: rest) = .ok (none, '\x7d' :: rest) := by
  simp [nextKey, skipBlank_newline, @skipBlank_cons '\x7d' _ (by decide)]

theorem fieldValue_fresh {α : Type} (name : String) (reads : Reads α) {cs rest : List Char}
    {a : α} (h : reads cs = .ok (a, rest)) :
    fieldValue name false reads (':' :: cs) = .ok (.ok a, rest) := by
  simp [fieldValue, colon, @skipBlank_cons ':' _ (by decide), h, except_ok_bind]

theorem skipBlank_space (cs : List Char) : skipBlank (' ' :: cs) = skipBlank cs := by
  simp [skipBlank, isBlank]

theorem fieldValue_text (name s : String) (rest : List Char) :
    fieldValue name false readText (':' :: ' ' :: (quote s ++ rest)) = .ok (.ok s, rest) :=
  fieldValue_fresh name readText (readText_of_skipBlank (by rw [skipBlank_space, skipBlank_quote]))

theorem fieldValue_texts (name : String) (d : Nat) (xs : List String) (rest : List Char) :
    fieldValue name false readTextList (':' :: ' ' :: (pretty d (Value.strs xs) ++ rest)) =
      .ok (.ok xs, rest) := by
  refine fieldValue_fresh name readTextList (@readTextList_of_skipBlank _ _ d _ ?_)
  rw [skipBlank_space]
  -- an array starts with its opening bracket, which is no blank
  cases xs <;> simp [Value.strs, pretty, skipBlank, isBlank]

theorem fieldValue_time (name : String) {t : Instant} (hwf : t.WellFormed)
    (hin : t.inRange = true) (rest : List Char) :
    fieldValue name false readTime (':' :: ' ' :: (quote t.rfc3339 ++ rest)) = .ok (.ok t, rest) :=
  fieldValue_fresh name readTime
    (readTime_of_skipBlank hwf hin (by rw [skipBlank_space, skipBlank_quote]))

/-- The members of a record's object read back into a full draft, given fuel for the five
members and the closing brace. -/
theorem recordFields_members (r : Record) (hwf : r.savedAt.WellFormed)
    (hin : r.savedAt.inRange = true) {fuel : Nat} (hfuel : 6 ≤ fuel)
    (rest : List Char) :
    recordFields fuel true {}
        (prettyFields 1 [("sheetId", .str r.sheetId), ("currentNodeId", .str r.currentNodeId),
          ("flags", Value.strs r.flags), ("history", Value.strs r.history),
          ("savedAt", .str r.savedAt.rfc3339)] ++ newline 0 ++ '\x7d' :: rest) =
      .ok (.ok ⟨some r.sheetId, some r.currentNodeId, some r.flags, some r.history, some r.savedAt⟩,
        '\x7d' :: rest) := by
  obtain ⟨g, rfl⟩ : ∃ g, fuel = g + 6 := ⟨fuel - 6, by omega⟩
  have hstr : ∀ d s, pretty d (Value.str s) = quote s := fun d s => by simp [pretty]
  simp only [prettyFields, hstr, List.append_assoc, List.cons_append]
  -- one member a round; unfolding one round at a time keeps the later rounds folded
  rw [recordFields]
  simp only [nextKey_first, except_ok_bind, Option.isSome_none, fieldValue_text]
  rw [recordFields]
  simp only [nextKey_next, except_ok_bind, Option.isSome_none, fieldValue_text]
  rw [recordFields]
  simp only [nextKey_next, except_ok_bind, Option.isSome_none, fieldValue_texts]
  rw [recordFields]
  simp only [nextKey_next, except_ok_bind, Option.isSome_none, fieldValue_texts]
  rw [recordFields]
  simp only [nextKey_next, except_ok_bind, Option.isSome_none, fieldValue_time _ hwf hin]
  rw [recordFields]
  simp only [nextKey_close, except_ok_bind]
  rfl

/-- **A record's text reads back as the record**, for every record stamped at an instant a clock
can show. -/
theorem Record.ofJson_toJson_of_inRange (r : Record) (hwf : r.savedAt.WellFormed)
    (hin : r.savedAt.inRange = true) :
    Record.ofJson r.toJson = .ok r := by
  simp only [Record.ofJson, Record.toJson, Value.renderPretty, String.toList_ofList, Record.toValue]
  rw [pretty]
  · simp only [List.cons_append, Nat.zero_add]
    rw [readRecord, @skipBlank_cons '{' _ (by decide)]
    simp only
    rw [recordFields_members r hwf hin ?_ []]
    · have hfinish : Draft.finish ⟨some r.sheetId, some r.currentNodeId, some r.flags,
          some r.history, some r.savedAt⟩ = .ok r := rfl
      have hclose : closeObject ['\x7d'] = .ok [] := rfl
      simp only [except_ok_bind, Except.bind, hfinish, hclose]
      rfl
    · -- five members and a closing brace take more than five characters
      simp only [prettyFields, List.length_append, List.length_cons]
      omega
  · exact List.cons_ne_nil _ _

theorem Record.ofJson_toJson (r : Record) (hwf : r.savedAt.WellFormed)
    (hyear : 0 ≤ r.savedAt.date.year ∧ r.savedAt.date.year ≤ 9999) :
    Record.ofJson r.toJson = .ok r :=
  Record.ofJson_toJson_of_inRange r hwf (Instant.inRange_of_four_digits hyear)

end Novel.Save
