import Novel.Proofs.MetadataReading

/-!
# Stripping markup is a one-pass scan

`stripTags` looks ahead from each `<` for the `>` that closes it. The same text comes out of a
scanner that reads the characters once, left to right, in one of two states: outside a tag it
copies each character, and a `<` takes it inside; inside a tag it holds what it has read since
the `<`, and the first `>` drops all of it and takes it back outside. A tag still open at the
end of the text was not a tag after all, so its held text is copied out then.

Main statement (`stripTags_eq_scan`): stripping markup is the scan followed by trimming. So what
it leaves is a subsequence of the text, has no blank at either end, has no `<` with a `>` after
it, and is left unchanged by stripping it again.

The scan agrees with the look-ahead through one lemma per state: from outside a tag the scan
deletes tags as `dropTags` does (`run_outside`), and from inside a tag it waits for the `>` that
`afterClose` finds (`run_inside`).
-/

namespace Novel.Text

/-- Where a scan of markup is: outside a tag, or inside one with the text held since its `<`. -/
inductive TagScan where
  | outside
  | inside (held : List Char)
  deriving DecidableEq, Repr

namespace TagScan

/-- Read one character: the state after it, and the characters copied out. -/
def step : TagScan → Char → TagScan × List Char
  | .outside, c => if c = '<' then (.inside ['<'], []) else (.outside, [c])
  | .inside held, c => if c = '>' then (.outside, []) else (.inside (held ++ [c]), [])

/-- What is copied out when the text ends: the held text of a tag left open. -/
def finish : TagScan → List Char
  | .outside => []
  | .inside held => held

/-- Scan a text from a state: what is copied out along the way, then at the end. -/
def run : TagScan → List Char → List Char
  | st, [] => st.finish
  | st, c :: cs => (st.step c).2 ++ (st.step c).1.run cs

/-- Inside a tag, the scan waits for the first `>` and goes on outside after it; with no `>`
left, it copies out the held text and the rest. -/
theorem run_inside (cs held : List Char) :
    (inside held).run cs =
      match afterClose cs with
      | some after => outside.run after
      | none => held ++ cs := by
  induction cs generalizing held with
  | nil => simp [run, finish, afterClose]
  | cons c rest ih =>
    by_cases hc : c = '>'
    · simp [run, step, afterClose, hc]
    · -- the character joins the held text, and the search for `>` goes on
      have hclose : afterClose (c :: rest) = afterClose rest := by simp [afterClose, hc]
      rw [hclose]
      simp only [run, step, hc, if_false, List.nil_append, ih (held ++ [c])]
      cases afterClose rest <;> simp

/-- From outside a tag, the scan deletes the tags of the text. -/
theorem run_outside (cs : List Char) : outside.run cs = dropTags cs := by
  fun_induction dropTags cs with
  | case1 => rfl
  | case2 c rest hc after hafter ih =>
    rw [beq_iff_eq.1 hc]
    simp [run, step, run_inside, hafter, ih]
  | case3 c rest hc hnone =>
    rw [beq_iff_eq.1 hc]
    simp [run, step, run_inside, hnone]
  | case4 c rest hc ih =>
    have hlt : c ≠ '<' := fun h => hc (beq_iff_eq.2 h)
    simp [run, step, hlt, ih]

end TagScan

/-- Delete the tags of a text in one pass, starting outside a tag. -/
def scanTags (cs : List Char) : List Char := TagScan.outside.run cs

/-- What follows the first `>` is a suffix of the text. -/
theorem afterClose_sublist : ∀ {cs after : List Char}, afterClose cs = some after →
    List.Sublist after cs
  | [], _, h => by simp [afterClose] at h
  | c :: rest, after, h => by
    unfold afterClose at h
    split at h
    · cases h
      exact List.sublist_cons_self c rest
    · exact (afterClose_sublist h).cons c

/-- Deleting tags keeps the other characters in order. -/
theorem dropTags_sublist (cs : List Char) : List.Sublist (dropTags cs) cs := by
  fun_induction dropTags cs with
  | case1 => exact List.Sublist.slnil
  | case2 c rest _ after hafter ih => exact (ih.trans (afterClose_sublist hafter)).cons c
  | case3 => exact List.Sublist.refl _
  | case4 c rest _ ih => exact ih.cons_cons c

/-- **Stripping markup is a one-pass scan, then trimming.** The result is a subsequence of the
text, is trimmed, holds no `<` with a `>` after it, and stripping it again changes nothing. -/
theorem stripTags_eq_scan (s : String) :
    stripTags s = String.ofList (trim (scanTags s.toList)) ∧
      List.Sublist (stripTags s).toList s.toList ∧
      trimString (stripTags s) = stripTags s ∧
      ¬ List.Sublist ['<', '>'] (stripTags s).toList ∧
      stripTags (stripTags s) = stripTags s := by
  have hlist : (stripTags s).toList = trim (dropTags s.toList) := by
    simp [stripTags]
  refine ⟨by rw [scanTags, TagScan.run_outside]; rfl, ?_, trimString_stripTags s, ?_,
    stripTags_stripTags s⟩
  · rw [hlist]
    exact (trim_sublist _).trans (dropTags_sublist _)
  · rw [hlist]
    exact fun h => untagged_dropTags _ (h.trans (trim_sublist _))

-- a tag runs from the first `<` to the first `>` after it, whatever lies between
example : stripTags "x < 10 <b>y</b>" = "x y" := by cbv

end Novel.Text
