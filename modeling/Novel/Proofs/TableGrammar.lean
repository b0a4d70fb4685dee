import Mathlib.Data.List.TakeWhile
import Novel.Proofs.TableRoundTrip

/-!
# What a table's text reads as

The reader makes one pass over the characters with a small state. Its result has a plain
reading, stated here as `grid` and proved equal to `read` (`read_follows_grammar`):

* **Lexemes.** Read from the start, every quote *toggles* quoted text, except that inside quoted
  text a doubled quote stands for one quote character. Outside quoted text a comma separates
  cells and CR LF, CR or LF ends a line; inside, they are characters of the cell. `lex` makes
  this classification and nothing more.
* **Lines and cells.** The text is split at its line ends, and each line is one row, except a
  last line with nothing in it: so the empty text has no rows. A line is split at its commas,
  and each piece is one cell, so a row has one cell more than it has commas.
* **A cell's value.** A piece without quotes is its text trimmed at both ends. Otherwise the
  text before its first quote is trimmed at its start, the text after its last closing quote
  at its end, and everything between is kept; a quote left open at the end of the input closes
  there, so nothing comes after it.

The proof has two steps. The reader is the same machine run over lexemes instead of characters
(`readLoop_eq_gather`). That machine is then followed a piece, a line and a table at a time.
What carries it is that the lexemes still to read are always those `lex` gives from the
machine's quote state (`Lexed`), so every comma and line end is met outside quotes: after an
even number of quotes in its piece. A piece leaves a draft whose characters are the piece's
value (`chars_feed`).
-/

namespace Novel.Table

open Novel.Text

/-! ## Lexemes -/

/-- What a character of a table's text is, once the text is read in order. -/
inductive Lexeme where
  /-- A character of a cell; inside quotes, a doubled quote is one. -/
  | char (c : Char)
  /-- A quote that enters or leaves quoted text. -/
  | toggle
  /-- A comma outside quotes. -/
  | comma
  /-- CR LF, CR or LF outside quotes. -/
  | lineEnd
  deriving DecidableEq, Repr

namespace Lexeme

/-- The character a lexeme adds to its cell. -/
def char? : Lexeme → Option Char
  | .char c => some c
  | .toggle => none
  | .comma => none
  | .lineEnd => none

/-- Commas and line ends separate cells. -/
def separates : Lexeme → Bool
  | .char _ => false
  | .toggle => false
  | .comma => true
  | .lineEnd => true

end Lexeme

/-- The lexemes of a text, given whether it starts inside quotes. -/
def lex : Bool → List Char → List Lexeme
  | true, '"' :: '"' :: rest => .char '"' :: lex true rest
  | true, '"' :: rest => .toggle :: lex false rest
  | true, c :: rest => .char c :: lex true rest
  | false, '"' :: rest => .toggle :: lex true rest
  | false, ',' :: rest => .comma :: lex false rest
  | false, '\r' :: '\n' :: rest => .lineEnd :: lex false rest
  | false, '\r' :: rest => .lineEnd :: lex false rest
  | false, '\n' :: rest => .lineEnd :: lex false rest
  | false, c :: rest => .char c :: lex false rest
  | _, [] => []

/-! ## The grammar -/

def texts (p : List Lexeme) : List Char := p.filterMap Lexeme.char?

def beforeQuote (p : List Lexeme) : List Lexeme := p.takeWhile (· != .toggle)

def afterQuote (p : List Lexeme) : List Lexeme := (p.dropWhile (· != .toggle)).drop 1

def beforeLastQuote (p : List Lexeme) : List Lexeme :=
  ((p.reverse.dropWhile (· != .toggle)).drop 1).reverse

def afterLastQuote (p : List Lexeme) : List Lexeme :=
  (p.reverse.takeWhile (· != .toggle)).reverse

/-- The value of the cell a piece spells. Without quotes it is the piece's text trimmed at both
ends. With an even number of quotes the last one closes quoted text: the text before the first
quote is trimmed at its start, the text after the last quote at its end, and what lies between
is kept. With an odd number the last quoted text is still open at the end of the input, and
everything after the first quote is kept. -/
def cellValue (p : List Lexeme) : List Char :=
  if p.count .toggle = 0 then trim (texts p)
  else if p.count .toggle % 2 = 1 then
    trimStart (texts (beforeQuote p)) ++ texts (afterQuote p)
  else
    trimStart (texts (beforeQuote p)) ++ texts (beforeLastQuote (afterQuote p)) ++
      trimEnd (texts (afterLastQuote p))

/-- The row a line spells: one cell for each piece between its commas. -/
def rowOf (line : List Lexeme) : Row :=
  (line.splitOnP (· == .comma)).map fun p => String.ofList (cellValue p)

/-- The lines of a text's lexemes, split at the line ends; a last line with nothing in it is
no line. -/
def linesOf (ls : List Lexeme) : List (List Lexeme) :=
  let lines := ls.splitOnP (· == .lineEnd)
  if lines.getLast? = some [] then lines.dropLast else lines

def grid (s : String) : List Row := (linesOf (lex false s.toList)).map rowOf

/-! ## The reader over lexemes -/

/-- The reader's loop run over lexemes instead of characters. -/
def gather : Bool → List Lexeme → Draft → List String → List Row → List Row
  | q, .char c :: ls, d, row, rows => gather q ls (d.push c) row rows
  | q, .toggle :: ls, d, row, rows => gather (!q) ls (if q then d.leave else d.enter) row rows
  | q, .comma :: ls, d, row, rows => gather q ls {} (d.finish :: row) rows
  | q, .lineEnd :: ls, d, row, rows => gather q ls {} [] ((d.finish :: row).reverse :: rows)
  | q, [], d, row, rows =>
    let d := if q then d.leave else d
    if d.touched || !row.isEmpty then ((d.finish :: row).reverse :: rows).reverse
    else rows.reverse

/-- **The reader is the lexeme machine run over the lexemes of its input.** Each branch of the
reader reads one lexeme: the same one `lex` reads in the same quote state. -/
theorem readLoop_eq_gather (q : Bool) (cs : List Char) (d : Draft) (row : List String)
    (rows : List Row) : readLoop q cs d row rows = gather q (lex q cs) d row rows := by
  fun_induction readLoop q cs d row rows with
  | case1 _ _ _ _ ih | case4 _ _ _ _ ih | case5 _ _ _ _ ih | case6 _ _ _ _ ih
  | case8 _ _ _ _ ih =>
    rw [lex, ih]
    rfl
  | case2 _ _ _ _ h ih | case7 _ _ _ _ h ih =>
    -- a single quote, or a lone CR: `lex` needs the same look-ahead as the reader
    rw [lex, ih]
    · rfl
    · exact h
  | case3 c rest d row rows h1 h2 ih =>
    rw [lex, ih]
    · rfl
    · exact h1
    · exact h2
  | case9 c rest d row rows h1 h2 h3 h4 h5 ih =>
    rw [lex, ih]
    · rfl
    all_goals assumption
  | case10 q d row rows d' h =>
    rw [lex, gather]
    exact (if_pos h).symm
  | case11 q d row rows d' h =>
    rw [lex, gather]
    exact (if_neg h).symm

/-! ## What is left to read -/

/-- The lexemes are those of some text read from the quote state `q`. -/
def Lexed (q : Bool) (ls : List Lexeme) : Prop := ∃ cs, lex q cs = ls

/-- After one lexeme, the rest is read from the state that lexeme leaves: a quote flips it and
nothing else does. A comma or a line end is only read outside quotes. -/
theorem lexed_cons {q : Bool} {x : Lexeme} {ls : List Lexeme} (h : Lexed q (x :: ls)) :
    Lexed (if x = .toggle then !q else q) ls ∧ (x.separates = true → q = false) := by
  obtain ⟨cs, hcs⟩ := h
  revert hcs
  fun_cases lex q cs <;> intro hcs <;> cases hcs <;>
    exact ⟨⟨_, rfl⟩, by simp [Lexeme.separates]⟩

/-- Whether reading a list of lexemes flips the quote state: it holds an odd number of
quotes. -/
def flips : List Lexeme → Bool
  | [] => false
  | .toggle :: p => !flips p
  | .char _ :: p => flips p
  | .comma :: p => flips p
  | .lineEnd :: p => flips p

theorem flips_eq_true_iff (p : List Lexeme) : flips p = true ↔ p.count .toggle % 2 = 1 := by
  induction p with
  | nil => simp [flips]
  | cons x p ih =>
    cases x with
    | toggle =>
      rw [flips, List.count_cons_self, Bool.not_eq_true', ← Bool.not_eq_true, ih]
      omega
    | _ => simpa [flips] using ih

theorem flips_eq_false_iff (p : List Lexeme) : flips p = false ↔ p.count .toggle % 2 = 0 := by
  rw [← Bool.not_eq_true, flips_eq_true_iff]
  omega

/-- What is left after some lexemes is read from the state they leave. -/
theorem lexed_append {q : Bool} {l₁ l₂ : List Lexeme} (h : Lexed q (l₁ ++ l₂)) :
    Lexed (q ^^ flips l₁) l₂ := by
  induction l₁ generalizing q with
  | nil => simpa [flips] using h
  | cons x l₁ ih =>
    have hnext := ih (lexed_cons h).1
    cases x <;> simp_all [flips]

/-! ## Pieces -/

/-- The draft after reading the lexemes of a piece from quote state `q`. Commas and line ends
never occur inside a piece. -/
def Draft.feed : Bool → Draft → List Lexeme → Draft
  | _, d, [] => d
  | q, d, .char c :: p => Draft.feed q (d.push c) p
  | q, d, .toggle :: p => Draft.feed (!q) (if q then d.leave else d.enter) p
  | q, d, .comma :: p => Draft.feed q d p
  | q, d, .lineEnd :: p => Draft.feed q d p

@[simp] theorem Draft.push_rev (d : Draft) (c : Char) : (d.push c).rev = c :: d.rev := rfl

@[simp] theorem Draft.leave_rev (d : Draft) : d.leave.rev = d.rev := rfl

theorem Draft.enter_of_opened {d : Draft} {k : Nat} (hd : d.opened = some k) : d.enter = d := by
  simp [Draft.enter, hd]

@[simp] theorem texts_cons (x : Lexeme) (p : List Lexeme) :
    texts (x :: p) = (x.char?.toList ++ texts p) := by
  cases x <;> rfl

theorem Draft.feed_append (q : Bool) (d : Draft) (l₁ l₂ : List Lexeme) :
    d.feed q (l₁ ++ l₂) = (d.feed q l₁).feed (q ^^ flips l₁) l₂ := by
  induction l₁ generalizing q d with
  | nil => simp [Draft.feed, flips]
  | cons x l₁ ih => cases x <;> simp [Draft.feed, flips, ih]

/-- A piece without quotes only adds its characters. -/
theorem Draft.feed_plain (q : Bool) (d : Draft) {p : List Lexeme} (hp : .toggle ∉ p) :
    d.feed q p = { d with rev := (texts p).reverse ++ d.rev } := by
  induction p generalizing d with
  | nil => rfl
  | cons x p ih =>
    have hp' : .toggle ∉ p := fun h => hp (List.mem_cons_of_mem _ h)
    cases x with
    | char c => simp [Draft.feed, ih _ hp', Lexeme.char?, Draft.push]
    | toggle => exact absurd List.mem_cons_self hp
    | comma => simp [Draft.feed, ih _ hp', Lexeme.char?]
    | lineEnd => simp [Draft.feed, ih _ hp', Lexeme.char?]

/-- Once quoted text has been opened, reading more adds characters and keeps where it
opened. -/
theorem Draft.feed_opened (q : Bool) {d : Draft} {k : Nat} (hd : d.opened = some k)
    (p : List Lexeme) :
    (d.feed q p).opened = some k ∧ (d.feed q p).rev = (texts p).reverse ++ d.rev := by
  induction p generalizing q d with
  | nil => exact ⟨hd, rfl⟩
  | cons x p ih =>
    cases x with
    | char c => simpa [Draft.feed, Lexeme.char?] using ih q (d := d.push c) hd
    | toggle =>
      -- entering again changes nothing, and leaving only moves the end of the quoted span
      cases q
      · simpa [Draft.feed, Lexeme.char?, Draft.enter_of_opened hd] using ih true hd
      · simpa [Draft.feed, Lexeme.char?] using ih false (d := d.leave) hd
    | comma => simpa [Draft.feed, Lexeme.char?] using ih q hd
    | lineEnd => simpa [Draft.feed, Lexeme.char?] using ih q hd

/-- The lexeme machine reads a piece into the draft, flipping its quote state once for every
quote. -/
theorem gather_piece (q : Bool) (p : List Lexeme) (hp : ∀ x ∈ p, x.separates = false)
    (rest : List Lexeme) (d : Draft) (row : List String) (rows : List Row) :
    gather q (p ++ rest) d row rows = gather (q ^^ flips p) rest (d.feed q p) row rows := by
  induction p generalizing q d with
  | nil => simp [Draft.feed, flips]
  | cons x p ih =>
    have hp' : ∀ y ∈ p, y.separates = false := fun y hy => hp y (List.mem_cons_of_mem _ hy)
    cases x with
    | char c => simpa [gather, Draft.feed, flips] using ih q hp' (d.push c)
    | toggle => simpa [gather, Draft.feed, flips] using ih (!q) hp' _
    | comma => simp [Lexeme.separates] at hp
    | lineEnd => simp [Lexeme.separates] at hp

/-! ## A piece's value -/

theorem beq_eq_false_of_not_mem {a : Lexeme} {l : List Lexeme} (h : a ∉ l) :
    ∀ x ∈ l, (x == a) = false := by
  intro x hx
  simpa using fun hxa : x = a => h (hxa ▸ hx)

theorem bne_toggle_of_not_mem {l : List Lexeme} (h : .toggle ∉ l) :
    ∀ x ∈ l, (x != .toggle) = true := by
  intro x hx
  simp [bne, beq_eq_false_of_not_mem h x hx]

theorem count_toggle_eq_zero {l : List Lexeme} (h : .toggle ∉ l) : l.count .toggle = 0 :=
  List.count_eq_zero.2 h

/-- A list with a quote splits at its last quote. -/
theorem exists_last_toggle {l : List Lexeme} (h : .toggle ∈ l) :
    ∃ mid post, l = mid ++ .toggle :: post ∧ .toggle ∉ post := by
  obtain ⟨l₁, l₂, h₁, h₂, -⟩ := List.exists_erase_eq (List.mem_reverse.2 h)
  refine ⟨l₂.reverse, l₁.reverse, ?_, by simpa using h₁⟩
  rw [← List.reverse_reverse l, h₂]
  simp

theorem beforeQuote_split {pre rest : List Lexeme} (hpre : .toggle ∉ pre) :
    beforeQuote (pre ++ .toggle :: rest) = pre := by
  simp [beforeQuote, List.takeWhile_append_of_pos (bne_toggle_of_not_mem hpre)]

theorem afterQuote_split {pre rest : List Lexeme} (hpre : .toggle ∉ pre) :
    afterQuote (pre ++ .toggle :: rest) = rest := by
  simp [afterQuote, List.dropWhile_append_of_pos (bne_toggle_of_not_mem hpre)]

theorem afterLastQuote_split {mid post : List Lexeme} (hpost : .toggle ∉ post) :
    afterLastQuote (mid ++ .toggle :: post) = post := by
  have h := bne_toggle_of_not_mem (l := post.reverse) (by simpa using hpost)
  simp [afterLastQuote, List.takeWhile_append_of_pos h]

theorem beforeLastQuote_split {mid post : List Lexeme} (hpost : .toggle ∉ post) :
    beforeLastQuote (mid ++ .toggle :: post) = mid := by
  have h := bne_toggle_of_not_mem (l := post.reverse) (by simpa using hpost)
  simp [beforeLastQuote, List.dropWhile_append_of_pos h]

theorem cellValue_plain {p : List Lexeme} (hp : .toggle ∉ p) : cellValue p = trim (texts p) := by
  simp [cellValue, count_toggle_eq_zero hp]

/-- A piece whose last quote is still open at the end keeps everything after its first
quote. -/
theorem cellValue_open {pre rest : List Lexeme} (hpre : .toggle ∉ pre)
    (hrest : rest.count .toggle % 2 = 0) :
    cellValue (pre ++ .toggle :: rest) = trimStart (texts pre) ++ texts rest := by
  have hcount : (pre ++ .toggle :: rest).count .toggle = rest.count .toggle + 1 := by
    simp [List.count_append, count_toggle_eq_zero hpre]
  have hodd : (rest.count .toggle + 1) % 2 = 1 := by omega
  simp only [cellValue, hcount, Nat.add_one_ne_zero, if_false, hodd, if_true,
    beforeQuote_split hpre, afterQuote_split hpre]

/-- A piece whose last quote closes keeps what lies between its first and last quotes. -/
theorem cellValue_closed {pre mid post : List Lexeme} (hpre : .toggle ∉ pre)
    (hpost : .toggle ∉ post) (hmid : mid.count .toggle % 2 = 0) :
    cellValue (pre ++ .toggle :: (mid ++ .toggle :: post)) =
      trimStart (texts pre) ++ texts mid ++ trimEnd (texts post) := by
  have hcount : (pre ++ .toggle :: (mid ++ .toggle :: post)).count .toggle =
      mid.count .toggle + 2 := by
    simp [List.count_append, count_toggle_eq_zero hpre, count_toggle_eq_zero hpost]
  have hnz : mid.count .toggle + 2 ≠ 0 := by omega
  have heven : ¬ (mid.count .toggle + 2) % 2 = 1 := by omega
  have hlast : afterLastQuote (pre ++ .toggle :: (mid ++ .toggle :: post)) = post := by
    rw [← List.cons_append, ← List.append_assoc]
    exact afterLastQuote_split hpost
  simp only [cellValue, hcount, hnz, if_false, heven, beforeQuote_split hpre,
    afterQuote_split hpre, beforeLastQuote_split hpost, hlast]

/-! ## A piece's draft -/

/-- A draft whose quoted span runs from the end of `pre` to the end of `mid` finishes as `pre`
trimmed at its start, `mid` kept, and `post` trimmed at its end. -/
theorem Draft.chars_span (pre mid post : List Char) :
    ({ rev := (pre ++ mid ++ post).reverse, opened := some pre.length,
       closed := pre.length + mid.length } : Draft).chars =
      trimStart pre ++ mid ++ trimEnd post := by
  have htake : (pre ++ mid ++ post).take (pre.length + mid.length) = pre ++ mid := by
    rw [← List.length_append]
    exact List.take_left
  have hdrop : (pre ++ mid ++ post).drop (pre.length + mid.length) = post := by
    rw [← List.length_append]
    exact List.drop_left
  simp only [Draft.chars, List.reverse_reverse, Nat.le_add_right, Nat.max_eq_left, htake, hdrop]
  simp [List.take_left', List.append_assoc]

theorem flips_of_not_mem {l : List Lexeme} (h : .toggle ∉ l) : flips l = false :=
  (flips_eq_false_iff l).2 (by rw [count_toggle_eq_zero h])

/-- The blank text before a first quote is padding: dropping it keeps what trimming its start
leaves. -/
theorem trimStart_padding (cs : List Char) :
    trimStart (if allBlank cs.reverse then [] else cs.reverse).reverse = trimStart cs := by
  split
  · rename_i h
    simp only [allBlank, List.all_reverse, List.all_eq_true] at h
    simp [trimStart, List.dropWhile_eq_nil_iff.2 h]
  · simp

/-- Up to and including its first quote, a piece leaves a draft opened after its text, with
blank text dropped. -/
theorem Draft.feed_quote {pre : List Lexeme} (hpre : .toggle ∉ pre) (rest : List Lexeme) :
    ({} : Draft).feed false (pre ++ .toggle :: rest) =
      (({ rev := (texts pre).reverse } : Draft).enter).feed true rest := by
  rw [Draft.feed_append, flips_of_not_mem hpre, Draft.feed_plain _ _ hpre]
  simp [Draft.feed]

theorem Draft.enter_fresh (cs : List Char) :
    ({ rev := cs.reverse } : Draft).enter =
      { rev := (if allBlank cs.reverse then [] else cs.reverse),
        opened := some (if allBlank cs.reverse then [] else cs.reverse).length } := by
  simp [Draft.enter]

/-- A draft opened after the text `pre`, or after nothing if `pre` is blank, with `mid` in its
quoted span and `post` after it, finishes as `pre` trimmed at its start, `mid` kept, and `post`
trimmed at its end. -/
theorem Draft.chars_after_padding (pre mid post : List Char) :
    (⟨post.reverse ++ (mid.reverse ++ (if allBlank pre.reverse then [] else pre.reverse)),
      some (if allBlank pre.reverse then [] else pre.reverse).length,
      (mid.reverse ++ (if allBlank pre.reverse then [] else pre.reverse)).length⟩ : Draft).chars =
      trimStart pre ++ mid ++ trimEnd post := by
  -- the text kept before the first quote, reversed as the draft holds it
  generalize hlead : (if allBlank pre.reverse then [] else pre.reverse) = lead
  have hspan : (⟨post.reverse ++ (mid.reverse ++ lead), some lead.length,
      (mid.reverse ++ lead).length⟩ : Draft) =
      ⟨(lead.reverse ++ mid ++ post).reverse, some lead.reverse.length,
        lead.reverse.length + mid.length⟩ := by
    simp [Nat.add_comm]
  rw [hspan, Draft.chars_span, ← hlead, trimStart_padding]

/-- Leaving quotes after reading on from an opened draft: the quoted span reaches the end. -/
theorem Draft.leave_feed_opened (q : Bool) {d : Draft} {k : Nat} (hd : d.opened = some k)
    (p : List Lexeme) :
    (d.feed q p).leave =
      { rev := (texts p).reverse ++ d.rev, opened := some k,
        closed := ((texts p).reverse ++ d.rev).length } := by
  obtain ⟨hopen, hrev⟩ := Draft.feed_opened q hd p
  rw [← hrev, ← hopen]
  rfl

/-- A piece whose last quote is still open at the end: closed there, its cell keeps everything
after the first quote. -/
theorem chars_open {pre : List Lexeme} (hpre : .toggle ∉ pre) (rest : List Lexeme) :
    (({} : Draft).feed false (pre ++ .toggle :: rest)).leave.chars =
      trimStart (texts pre) ++ texts rest := by
  rw [Draft.feed_quote hpre, Draft.enter_fresh, Draft.leave_feed_opened true rfl]
  -- nothing comes after the quoted span: it closes at the end
  simpa [trimEnd] using Draft.chars_after_padding (texts pre) (texts rest) []

/-- A piece whose last quote closes: its cell keeps what lies between the first and last
quotes. -/
theorem chars_closed {pre mid post : List Lexeme} (hpre : .toggle ∉ pre)
    (hpost : .toggle ∉ post) (hmid : mid.count .toggle % 2 = 0) :
    (({} : Draft).feed false (pre ++ .toggle :: (mid ++ .toggle :: post))).chars =
      trimStart (texts pre) ++ texts mid ++ trimEnd (texts post) := by
  rw [Draft.feed_quote hpre, Draft.enter_fresh, Draft.feed_append, (flips_eq_false_iff mid).2 hmid]
  -- the middle leaves the quotes open, so the last quote leaves them
  simp only [Bool.xor_false, Draft.feed, ↓reduceIte]
  rw [Draft.feed_plain _ _ hpost, Draft.leave_feed_opened true rfl]
  exact Draft.chars_after_padding (texts pre) (texts mid) (texts post)

/-- **A piece leaves a draft whose characters are the piece's value**, once a quote still open
at the end is closed there. -/
theorem chars_feed (p : List Lexeme) :
    (if flips p then (({} : Draft).feed false p).leave else ({} : Draft).feed false p).chars =
      cellValue p := by
  by_cases ht : .toggle ∈ p
  · -- split at the first quote, and then by whether the quotes after it close it
    obtain ⟨pre, rest, hpre, rfl, -⟩ := List.exists_erase_eq ht
    have hcount : (pre ++ .toggle :: rest).count .toggle = rest.count .toggle + 1 := by
      simp [List.count_append, count_toggle_eq_zero hpre]
    by_cases hrest : rest.count .toggle % 2 = 0
    · have hflips : flips (pre ++ .toggle :: rest) = true := by
        rw [flips_eq_true_iff, hcount]
        omega
      rw [if_pos hflips, chars_open hpre, cellValue_open hpre hrest]
    · have hmem : .toggle ∈ rest := List.count_pos_iff.1 (by omega)
      obtain ⟨mid, post, rfl, hpost⟩ := exists_last_toggle hmem
      have hmid : mid.count .toggle % 2 = 0 := by
        simp [List.count_append, count_toggle_eq_zero hpost] at hrest
        omega
      have hflips : flips (pre ++ .toggle :: (mid ++ .toggle :: post)) = false := by
        rw [flips_eq_false_iff, hcount]
        omega
      rw [hflips, if_neg Bool.false_ne_true, chars_closed hpre hpost hmid,
        cellValue_closed hpre hpost hmid]
  · rw [flips_of_not_mem ht, if_neg Bool.false_ne_true, Draft.feed_plain _ _ ht,
      cellValue_plain ht]
    simp [Draft.chars]

/-! ## Whether a cell was read -/

theorem Draft.touched_push (d : Draft) (c : Char) : (d.push c).touched = true := by
  simp [Draft.touched, Draft.push]

theorem Draft.touched_leave (d : Draft) : d.leave.touched = d.touched := rfl

theorem Draft.touched_enter (d : Draft) : d.enter.touched = true := by
  unfold Draft.enter
  split <;> simp_all [Draft.touched]

/-- Once something is read for a cell, it stays read. -/
theorem Draft.touched_feed {q : Bool} {d : Draft} (hd : d.touched = true) (p : List Lexeme) :
    (d.feed q p).touched = true := by
  induction p generalizing q d with
  | nil => exact hd
  | cons x p ih =>
    cases x with
    | char c => exact ih (Draft.touched_push d c)
    | toggle =>
      cases q
      · exact ih (Draft.touched_enter d)
      · exact ih ((Draft.touched_leave d).trans hd)
    | comma => exact ih hd
    | lineEnd => exact ih hd

/-- A piece read outside quotes marks its cell as read exactly when it has a lexeme: a character
or a quote. -/
theorem Draft.touched_feed_fresh (p : List Lexeme) (hp : ∀ x ∈ p, x.separates = false) :
    (({} : Draft).feed false p).touched = !p.isEmpty := by
  cases p with
  | nil => rfl
  | cons x p =>
    cases x with
    | char c => exact Draft.touched_feed (Draft.touched_push _ c) p
    | toggle =>
      show (Draft.feed true ({} : Draft).enter p).touched = true
      exact Draft.touched_feed (Draft.touched_enter _) p
    | comma => simp [Lexeme.separates] at hp
    | lineEnd => simp [Lexeme.separates] at hp

/-! ## Lines -/

theorem separates_false_of_not_mem {p : List Lexeme} (hc : .comma ∉ p) (hl : .lineEnd ∉ p) :
    ∀ x ∈ p, x.separates = false := by
  intro x hx
  cases x with
  | comma => exact absurd hx hc
  | lineEnd => exact absurd hx hl
  | _ => rfl

/-- A comma or a line end is read outside quotes, after a piece with an even number of quotes,
and the lexemes after it are read from outside quotes. -/
theorem lexed_separator {p rest : List Lexeme} {x : Lexeme} (hx : x.separates = true)
    (h : Lexed false (p ++ x :: rest)) : flips p = false ∧ Lexed false rest := by
  have h' := lexed_cons (lexed_append h)
  have hq : flips p = false := by simpa [Bool.false_xor] using h'.2 hx
  have hxt : x ≠ .toggle := by
    rintro rfl
    simp [Lexeme.separates] at hx
  refine ⟨hq, ?_⟩
  simpa [hxt, hq] using h'.1

theorem finish_feed {p : List Lexeme} (hq : flips p = false) :
    (({} : Draft).feed false p).finish = String.ofList (cellValue p) := by
  rw [Draft.finish, ← chars_feed p, hq, if_neg Bool.false_ne_true]

/-- Reading a piece that a comma ends adds its cell to the row. -/
theorem gather_piece_comma {p rest : List Lexeme} (hp : ∀ x ∈ p, x.separates = false)
    (hlex : Lexed false (p ++ .comma :: rest)) (row : List String) (rows : List Row) :
    gather false (p ++ .comma :: rest) {} row rows =
      gather false rest {} (String.ofList (cellValue p) :: row) rows := by
  have hq := (lexed_separator rfl hlex).1
  rw [gather_piece false p hp, Bool.false_xor, hq, gather, finish_feed hq]

/-- Reading a piece that a line end ends adds its cell and closes the row. -/
theorem gather_piece_lineEnd {p rest : List Lexeme} (hp : ∀ x ∈ p, x.separates = false)
    (hlex : Lexed false (p ++ .lineEnd :: rest)) (row : List String) (rows : List Row) :
    gather false (p ++ .lineEnd :: rest) {} row rows =
      gather false rest {} [] ((String.ofList (cellValue p) :: row).reverse :: rows) := by
  have hq := (lexed_separator rfl hlex).1
  rw [gather_piece false p hp, Bool.false_xor, hq, gather, finish_feed hq]

/-- At the end of the input, the last piece adds its cell and closes the row, unless neither
the piece nor the row has anything in it. -/
theorem gather_piece_last {p : List Lexeme} (hp : ∀ x ∈ p, x.separates = false)
    (row : List String) (rows : List Row) :
    gather false p {} row rows =
      if p = [] ∧ row = [] then rows.reverse
      else ((String.ofList (cellValue p) :: row).reverse :: rows).reverse := by
  have h := gather_piece false p hp [] {} row rows
  rw [List.append_nil] at h
  rw [h, gather, Bool.false_xor]
  -- an open quote closes at the end; closing it neither reads anything nor changes the cell
  have hchars := chars_feed p
  generalize hd : (if flips p then (({} : Draft).feed false p).leave
    else ({} : Draft).feed false p) = d at hchars
  have htouched : d.touched = !p.isEmpty := by
    rw [← hd]
    split <;> simp [Draft.touched_leave, Draft.touched_feed_fresh p hp]
  simp only [Draft.finish, hchars, htouched]
  cases p <;> cases row <;> simp

theorem rowOf_comma {p : List Lexeme} (hp : .comma ∉ p) (rest : List Lexeme) :
    rowOf (p ++ .comma :: rest) = String.ofList (cellValue p) :: rowOf rest := by
  rw [rowOf, List.splitOnP_append_cons_of_forall_mem (beq_eq_false_of_not_mem hp) _ rfl]
  rfl

theorem rowOf_piece {p : List Lexeme} (hp : .comma ∉ p) :
    rowOf p = [String.ofList (cellValue p)] := by
  rw [rowOf, List.splitOnP_eq_singleton (beq_eq_false_of_not_mem hp)]
  rfl

/-- **A line read up to its line end adds its row** after the cells the row already has. -/
theorem gather_line (line : List Lexeme) (hline : .lineEnd ∉ line) (rest : List Lexeme)
    (hlex : Lexed false (line ++ .lineEnd :: rest)) (row : List String) (rows : List Row) :
    gather false (line ++ .lineEnd :: rest) {} row rows =
      gather false rest {} [] ((row.reverse ++ rowOf line) :: rows) := by
  by_cases hc : .comma ∈ line
  · -- the first comma ends the first cell; what follows it is a shorter line
    obtain ⟨p, line', hp, hsplit, -⟩ := List.exists_erase_eq hc
    subst hsplit
    have hl : .lineEnd ∉ p ∧ .lineEnd ∉ line' := by simpa using hline
    have hlex' : Lexed false (p ++ .comma :: (line' ++ .lineEnd :: rest)) := by simpa using hlex
    rw [List.append_assoc, List.cons_append,
      gather_piece_comma (separates_false_of_not_mem hp hl.1) hlex',
      gather_line line' hl.2 rest (lexed_separator rfl hlex').2, rowOf_comma hp]
    simp
  · rw [gather_piece_lineEnd (separates_false_of_not_mem hc hline) hlex, rowOf_piece hc]
    simp
termination_by line.length
decreasing_by rw [hsplit]; simp only [List.length_append, List.length_cons]; omega

/-- **The last line, with no line end after it, adds its row unless nothing was read for it.** -/
theorem gather_last_line (line : List Lexeme) (hline : .lineEnd ∉ line)
    (hlex : Lexed false line) (row : List String) (rows : List Row) :
    gather false line {} row rows =
      if line = [] ∧ row = [] then rows.reverse
      else ((row.reverse ++ rowOf line) :: rows).reverse := by
  by_cases hc : .comma ∈ line
  · obtain ⟨p, line', hp, hsplit, -⟩ := List.exists_erase_eq hc
    subst hsplit
    have hl : .lineEnd ∉ p ∧ .lineEnd ∉ line' := by simpa using hline
    rw [gather_piece_comma (separates_false_of_not_mem hp hl.1) hlex,
      gather_last_line line' hl.2 (lexed_separator rfl hlex).2, rowOf_comma hp]
    simp
  · rw [gather_piece_last (separates_false_of_not_mem hc hline), rowOf_piece hc]
    simp
termination_by line.length
decreasing_by rw [hsplit]; simp only [List.length_append, List.length_cons]; omega

/-! ## The table -/

theorem linesOf_lineEnd {line : List Lexeme} (hline : .lineEnd ∉ line) (rest : List Lexeme) :
    linesOf (line ++ .lineEnd :: rest) = line :: linesOf rest := by
  -- the lines of the rest are never none, so the last line is the rest's last line
  obtain ⟨l, ls, hls⟩ :=
    List.exists_cons_of_ne_nil (List.splitOnP_ne_nil (· == Lexeme.lineEnd) rest)
  have hsplit : (line ++ .lineEnd :: rest).splitOnP (· == .lineEnd) = line :: l :: ls := by
    rw [List.splitOnP_append_cons_of_forall_mem (beq_eq_false_of_not_mem hline) .lineEnd rfl, hls]
  simp only [linesOf, hsplit, hls, List.getLast?_cons_cons, List.dropLast_cons_cons]
  exact (apply_ite (List.cons line) _ _ _).symm

theorem linesOf_of_not_mem {ls : List Lexeme} (h : .lineEnd ∉ ls) :
    linesOf ls = if ls = [] then [] else [ls] := by
  rw [linesOf, List.splitOnP_eq_singleton (beq_eq_false_of_not_mem h)]
  cases ls <;> simp

/-- **The lexeme machine reads a text's lexemes as the rows of its lines**, after the rows it
already has. -/
theorem gather_table (ls : List Lexeme) (hlex : Lexed false ls) (rows : List Row) :
    gather false ls {} [] rows = rows.reverse ++ (linesOf ls).map rowOf := by
  by_cases he : .lineEnd ∈ ls
  · -- the first line end closes the first line; the rest is read the same way
    obtain ⟨line, rest, hline, hsplit, -⟩ := List.exists_erase_eq he
    subst hsplit
    rw [gather_line line hline rest hlex [] rows,
      gather_table rest (lexed_separator rfl hlex).2, linesOf_lineEnd hline]
    simp
  · rw [gather_last_line ls he hlex, linesOf_of_not_mem he]
    by_cases h : ls = [] <;> simp [h]
termination_by ls.length
decreasing_by rw [hsplit]; simp only [List.length_append, List.length_cons]; omega

theorem length_splitOnP {α : Type} (p : α → Bool) (l : List α) :
    (l.splitOnP p).length = l.countP p + 1 := by
  induction l with
  | nil => simp
  | cons x l ih =>
    rw [List.splitOnP_cons_eq_if_modifyHead, List.countP_cons]
    split <;> simp_all

theorem rowOf_length (line : List Lexeme) : (rowOf line).length = line.count .comma + 1 := by
  rw [rowOf, List.length_map, length_splitOnP]
  rfl

/-- **Reading a table follows its grammar.** Every line of the text, split at the line ends
outside quotes, is one row, except a last line with no lexeme, so the empty text has no rows.
A row's cells are the pieces of its line between the commas outside quotes, one more than
there are commas, each with the value `cellValue` gives. -/
theorem read_follows_grammar (s : String) :
    read s = grid s ∧
      ∀ line ∈ linesOf (lex false s.toList), (rowOf line).length = line.count .comma + 1 := by
  refine ⟨?_, fun line _ => rowOf_length line⟩
  rw [read, readChars, readLoop_eq_gather, gather_table _ ⟨_, rfl⟩ [], grid]
  simp

/-- Padding, a quoted comma, a doubled quote and text after the closing quote, then CR LF. -/
example : grid " a ,\"b,\"\"c\"\" \" d\r\ne" = [["a", "b,\"c\"  d"], ["e"]] := by decide

end Novel.Table
