import Novel.Proofs.Consistency

/-!
# Flags stay a set

The player's flags are kept as a strictly increasing list, which is the set they stand for
written in order. Inserting a flag keeps the list so; the set of any list is so; and the set
of a list that is already so is the list itself.

So in every session a host can reach the flags are strictly increasing: starting clears them,
moving inserts the target's flags one by one, and restoring a record makes a set of its list.
This is what lets a record taken from a session restore the session's progress exactly.
-/

namespace Novel.Play

/-- Flags kept in their order: strictly increasing, so without repeats. -/
def Progress.FlagsOrdered (p : Progress) : Prop := p.flags.Pairwise (· < ·)

theorem mem_insertFlag {f g : String} {l : List String} (h : g ∈ insertFlag f l) :
    g = f ∨ g ∈ l := by
  fun_induction insertFlag f l with
  | case1 => simpa using h
  | case2 g' rest hlt => simpa using h
  | case3 g' rest hlt heq => exact .inr h
  | case4 g' rest hlt heq ih =>
    rcases List.mem_cons.1 h with rfl | h
    · exact .inr List.mem_cons_self
    · rcases ih h with rfl | h
      · exact .inl rfl
      · exact .inr (List.mem_cons_of_mem _ h)

/-- Inserting a flag keeps the list strictly increasing. -/
theorem insertFlag_ordered (f : String) {l : List String} (hl : l.Pairwise (· < ·)) :
    (insertFlag f l).Pairwise (· < ·) := by
  fun_induction insertFlag f l with
  | case1 => simp
  | case2 g rest hlt =>
    refine List.Pairwise.cons (fun x hx => ?_) hl
    rcases List.mem_cons.1 hx with rfl | hx
    · exact hlt
    · exact String.lt_trans hlt (List.rel_of_pairwise_cons hl hx)
  | case3 g rest hlt heq => exact hl
  | case4 g rest hlt heq ih =>
    -- neither below nor equal to `g`, so `f` lies above it
    have hne : f ≠ g := by simpa using heq
    have hgf : g < f :=
      Decidable.byContradiction fun hge => hne (Std.Trichotomous.trichotomous f g hlt hge)
    refine List.Pairwise.cons (fun x hx => ?_) (ih hl.of_cons)
    rcases mem_insertFlag hx with rfl | hx
    · exact hgf
    · exact List.rel_of_pairwise_cons hl hx

/-- Inserting flags one by one keeps a strictly increasing list so. -/
theorem foldl_insertFlag_ordered (fs : List String) {acc : List String}
    (h : acc.Pairwise (· < ·)) :
    (fs.foldl (fun acc f => insertFlag f acc) acc).Pairwise (· < ·) := by
  induction fs generalizing acc with
  | nil => exact h
  | cons f fs ih => exact ih (insertFlag_ordered f h)

theorem flagSet_ordered (fs : List String) : (flagSet fs).Pairwise (· < ·) :=
  foldl_insertFlag_ordered fs .nil

/-- A flag above every flag of a list goes at its end. -/
theorem insertFlag_of_lt {f : String} {l : List String} (h : ∀ g ∈ l, g < f) :
    insertFlag f l = l ++ [f] := by
  induction l with
  | nil => rfl
  | cons g rest ih =>
    have hgf := h g List.mem_cons_self
    have hne : f ≠ g := fun heq => String.lt_irrefl g (heq ▸ hgf)
    simp [insertFlag, String.lt_asymm hgf, hne, ih (fun x hx => h x (List.mem_cons_of_mem _ hx))]

/-- The set of a strictly increasing list is the list itself. -/
theorem flagSet_of_ordered {fs : List String} (h : fs.Pairwise (· < ·)) : flagSet fs = fs := by
  -- each flag is above those inserted before it, so it goes at the end
  suffices ∀ acc : List String, (acc ++ fs).Pairwise (· < ·) →
      fs.foldl (fun acc f => insertFlag f acc) acc = acc ++ fs from this [] h
  clear h
  induction fs with
  | nil => simp
  | cons f fs ih =>
    intro acc hacc
    have hlt : ∀ g ∈ acc, g < f := fun g hg =>
      (List.pairwise_append.1 hacc).2.2 g hg f List.mem_cons_self
    rw [List.foldl_cons, insertFlag_of_lt hlt, ih (acc ++ [f]) (by simpa using hacc)]
    simp

namespace Progress

theorem start_flagsOrdered (id : String) : (Progress.start id).FlagsOrdered := List.Pairwise.nil

theorem ofParts_flagsOrdered (current : String) (flags history : List String) :
    (Progress.ofParts current flags history).FlagsOrdered := flagSet_ordered flags

theorem moveTo_flagsOrdered {p : Progress} (h : p.FlagsOrdered) (id : String)
    (target : Story.Node) : (p.moveTo id target).FlagsOrdered := foldl_insertFlag_ordered _ h

end Progress

theorem Session.moveAlong_flagsOrdered {p : Progress} (h : p.FlagsOrdered) (ps : List Pending) :
    (Session.moveAlong p ps).FlagsOrdered := by
  induction ps generalizing p with
  | nil => exact h
  | cons q ps ih => exact ih (Progress.moveTo_flagsOrdered h q.targetId q.target)

end Novel.Play

namespace Novel.Save

open Novel.Play

theorem Record.toProgress_capture {p : Progress} (h : p.FlagsOrdered) (sheetId : String)
    (savedAt : Time.Instant) : (Record.capture sheetId p savedAt).toProgress = p := by
  simp [Record.capture, Record.toProgress, Progress.ofParts, flagSet_of_ordered h]

end Novel.Save

namespace Novel.Play.Session

open Novel.Story Novel.Save

variable {σ : Type}

/-- A session as built: the checked configuration, the book, the store given, the player at the
start node and nothing else begun. -/
theorem build_eq {config : ConfigSource} {book : BookSource} {store : σ} {events : List Event}
    {s : Session σ} (h : build config book store = (events, .ok s)) :
    ∃ c b, s =
      { book := b, config := c, progress := Progress.start b.start,
        fade := Sequencer.init c.fadeMs c.holdMs, stage := {}, store := store } := by
  cases hconfig : config.resolve with
  | error e => simp [build, hconfig] at h
  | ok c =>
    cases book with
    | loaded b =>
      simp only [build, hconfig, Prod.mk.injEq, Except.ok.injEq] at h
      exact ⟨c, b, h.2.symm⟩
    | sheets story metadata =>
      cases hsheets : Book.ofSheets story metadata with
      | mk es r =>
        cases r with
        | error e => simp [build, hconfig, hsheets, mapError_error] at h
        | ok b =>
          simp only [build, hconfig, hsheets, mapError_ok, Prod.mk.injEq, Except.ok.injEq] at h
          exact ⟨c, b, h.2.symm⟩
    | none => simp [build, hconfig] at h

variable [Slots σ]

/-- **Every operation keeps the flags in order**: starting clears them, moving inserts into them,
restoring a record makes a set of its list, and nothing else touches them. -/
theorem flagsOrdered_run {s : Session σ} (h : s.progress.FlagsOrdered) (o : Op) :
    (o.run s).progress.FlagsOrdered := by
  change (o.run s).course.progress.FlagsOrdered
  cases o with
  | start => rw [Op.run, course_start]; exact Progress.start_flagsOrdered _
  | restart => rw [Op.run, course_restart]; exact Progress.start_flagsOrdered _
  | loadBook b => rw [Op.run, course_loadBook]; exact Progress.start_flagsOrdered _
  | select i now =>
    rcases select_cases (s, []) i now with ⟨hsame, -⟩ | ⟨c, target, -, -, -, -, -, hsession⟩ |
      ⟨c, target, -, -, -, -, -, hcourse⟩
    · rw [Op.run, hsame]; exact h
    · rw [Op.run, hsession]; exact h
    · rw [Op.run, hcourse]; exact Progress.moveTo_flagsOrdered h _ _
  | tick now => rw [Op.run, course_tick]; exact moveAlong_flagsOrdered h _
  | continueSaved =>
    rcases continueSaved_cases (s, []) with ⟨hsame, -⟩ | ⟨r, u, -, -, -, hcourse⟩
    · rw [Op.run, hsame]; exact h
    · rw [Op.run, hcourse]; exact Progress.ofParts_flagsOrdered _ _ _
  | importSave json =>
    rcases importSave_cases (s, []) json with ⟨hsame, -⟩ | ⟨r, u, -, -, -, hcourse⟩
    · rw [Op.run, hsame]; exact h
    · rw [Op.run, hcourse]; exact Progress.ofParts_flagsOrdered _ _ _
  | save => rw [Op.run, course_save]; exact h
  | deleteSave => rw [Op.run, course_deleteSave]; exact h
  | prompt => rw [Op.run, (prompt_run (s, [])).2]; exact h
  | visibleChoices => rw [Op.run, (visibleChoices_run (s, [])).2]; exact h

theorem Reachable.flagsOrdered {s : Session σ} (h : Reachable s) : s.progress.FlagsOrdered := by
  induction h with
  | built hb =>
    obtain ⟨c, b, rfl⟩ := build_eq hb
    exact Progress.start_flagsOrdered _
  | step o _ ih => exact flagsOrdered_run ih o
  | clock t _ _ _ ih => exact ih

end Novel.Play.Session
