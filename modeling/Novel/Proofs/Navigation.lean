import Novel.Proofs.Consistency

/-!
# Every move follows an offered choice

A player moves in two ways: a selection whose target cuts or checkpoints moves at once, and a
tick past the deadline of a fade moves to the target chosen when the fade began. In both the
player goes along a choice of the node they stood on, to a node of the book whose required
flags they held.

For a cut this is read off the prompt. For a fade it is not: the choice was made at an earlier
selection, and any operations may have happened in between. What carries it is the invariant of
`Consistency`: a pending target is always offered at the current node of the current book.
-/

namespace Novel.Play.Session

open Novel.Story Novel.Save

namespace Course

/-- From course `c` to course `c'` the player stays where they were, or moves along a choice
offered in `c`: a choice of the node current in `c`, to the book's node of its target, whose
required flags they hold in `c`. -/
def MovesAlongOffer (c c' : Course) : Prop :=
  c'.progress = c.progress ∨
    ∃ p : Pending, c.Offered p ∧ c'.book = c.book ∧
      c'.progress = c.progress.moveTo p.targetId p.target

end Course

variable {σ : Type} [Slots σ]

/-- **A selection moves only along a choice of the prompt.** A fade it starts leaves the
progress alone; a cut or checkpoint goes to the chosen target, which the flags unlock. -/
theorem select_movesAlongOffer (x : Session σ × List Event) (i now : Nat) :
    x.1.course.MovesAlongOffer ((select i now : Act σ Outcome).run x).run.2.1.course := by
  rcases select_cases x i now with ⟨hsame, -⟩ | ⟨c, target, -, -, -, -, -, hsession⟩ |
    ⟨c, target, -, hch, ht, -, -, hcourse⟩
  · left
    rw [hsame]
  · left
    rw [hsession]
    rfl
  · right
    refine ⟨⟨c.target, target⟩, offered_of_choiceAt hch ht, ?_, ?_⟩
    · rw [hcourse]
    · rw [hcourse]
      rfl

/-- **A tick moves only to the pending target**, and in a consistent course that target was
offered at the node the player stands on, whatever happened since it was chosen. -/
theorem tick_movesAlongOffer {x : Session σ × List Event} (hc : x.1.course.Consistent)
    (now : Nat) :
    x.1.course.MovesAlongOffer ((tick now : Act σ (Option Update)).run x).run.2.1.course := by
  cases hdue : x.1.fade.state.dueBy now with
  | none =>
    left
    rw [course_tick_of_not_due x hdue]
  | some p =>
    right
    obtain ⟨d, hst, -⟩ := FadeState.dueBy_eq_some hdue
    refine ⟨p, hc.pending_offered p d hst, ?_, ?_⟩
    · rw [course_tick_of_due x hdue]
    · rw [course_tick_of_due x hdue]
      rfl

/-- **Every navigation follows an offered edge.** In every session a host can reach, a
selection or a tick either leaves the progress as it was or moves the player along a choice of
the node they stood on, to a node of the book whose required flags they held just before. -/
theorem navigation_follows_offer {s : Session σ} (hs : Reachable s) :
    (∀ i now, s.course.MovesAlongOffer ((Op.select i now).run s).course) ∧
      ∀ now, s.course.MovesAlongOffer ((Op.tick now).run s).course :=
  ⟨fun i now => select_movesAlongOffer (s, []) i now,
    fun now => @tick_movesAlongOffer σ _ (s, []) hs.consistent now⟩

/-- The tick that ends the sample's fade moves the player from the door into the room, along
the door's one choice. -/
theorem sample_fade_commit_follows_offer :
    ((Op.select 0 0).run sampleSession).course.MovesAlongOffer
      ((Op.tick 600).run ((Op.select 0 0).run sampleSession)).course :=
  (navigation_follows_offer (sampleSession_reachable.step (.select 0 0))).2 600

end Novel.Play.Session
