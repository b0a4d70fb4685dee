import Novel.Proofs.FlagSets

/-!
# Runs of progress commands

Progress changes by commands applied one after another. This module follows a run of moves
from any progress, and says what starting over and restoring do whatever came before.

The moves are read through the *trail* of a progress: its history followed by its current node,
the nodes walked oldest first. A move adds its target to the end of the trail and the target's
flags to the flags, and nothing else. So after moves to `t₁, …, tₖ` the trail is the old trail
followed by `t₁, …, tₖ`: the player stands on `tₖ` (or where they stood, if there were no
moves), the history grows by exactly one node per move, the old current node first, and the
flags are the old flags together with every flag the targets grant.

Moving to the node the player stands on still records it in the history: a history may end
with the current node.
-/

namespace Novel.Play

open Novel.Story

/-- The nodes walked, oldest first: the history, then the current node. -/
def Progress.trail (p : Progress) : List String := p.history ++ [p.current]

theorem Progress.trail_ne_nil (p : Progress) : p.trail ≠ [] := by
  simp [Progress.trail]

theorem Progress.current_eq_getLast (p : Progress) : p.current = p.trail.getLast p.trail_ne_nil :=
  by simp [Progress.trail]

theorem Progress.history_eq_dropLast (p : Progress) : p.history = p.trail.dropLast := by
  simp [Progress.trail]

/-! ## Flags -/

theorem mem_insertFlag_iff {f g : String} {l : List String} :
    g ∈ insertFlag f l ↔ g = f ∨ g ∈ l := by
  refine ⟨mem_insertFlag, ?_⟩
  fun_induction insertFlag f l with
  | case1 => simp
  | case2 g' rest hlt => simp
  | case3 g' rest hlt heq =>
    -- the flag is already there, as the head
    have hfg : f = g' := by simpa using heq
    rintro (rfl | h)
    · exact hfg ▸ List.mem_cons_self
    · exact h
  | case4 g' rest hlt heq ih =>
    rintro (rfl | h)
    · exact List.mem_cons_of_mem _ (ih (.inl rfl))
    · rcases List.mem_cons.1 h with rfl | h
      · exact List.mem_cons_self
      · exact List.mem_cons_of_mem _ (ih (.inr h))

/-- Inserting flags one by one holds exactly the flags held before and the flags inserted. -/
theorem mem_foldl_insertFlag {g : String} (fs : List String) {acc : List String} :
    g ∈ fs.foldl (fun acc f => insertFlag f acc) acc ↔ g ∈ acc ∨ g ∈ fs := by
  induction fs generalizing acc with
  | nil => simp
  | cons f fs ih =>
    rw [List.foldl_cons, ih, mem_insertFlag_iff, List.mem_cons, or_assoc, or_left_comm]

/-! ## One move -/

namespace Progress

@[simp] theorem moveTo_trail (p : Progress) (id : String) (target : Node) :
    (p.moveTo id target).trail = p.trail ++ [id] := by
  simp [moveTo, trail]

theorem mem_flags_moveTo {p : Progress} {id f : String} {target : Node} :
    f ∈ (p.moveTo id target).flags ↔ f ∈ p.flags ∨ f ∈ target.granted :=
  mem_foldl_insertFlag target.granted

end Progress

/-! ## Runs of moves -/

/-- The commands that move along `moves`, each a target id and its node. -/
def Command.ofMoves (moves : List (String × Node)) : List Command :=
  moves.map fun m => .move m.1 m.2

/-- Each move of a run adds its target to the end of the trail. -/
theorem trail_moves (p : Progress) (moves : List (String × Node)) :
    ((Command.ofMoves moves).foldl Command.apply p).trail = p.trail ++ moves.map Prod.fst := by
  induction moves generalizing p with
  | nil => simp [Command.ofMoves]
  | cons m moves ih =>
    simp only [Command.ofMoves, List.map_cons, List.foldl_cons, Command.apply] at ih ⊢
    rw [ih, Progress.moveTo_trail, List.append_assoc]
    rfl

/-- A run of moves holds exactly the flags held before and the flags its targets grant. -/
theorem mem_flags_moves (p : Progress) (moves : List (String × Node)) (f : String) :
    f ∈ ((Command.ofMoves moves).foldl Command.apply p).flags ↔
      f ∈ p.flags ∨ ∃ m ∈ moves, f ∈ m.2.granted := by
  induction moves generalizing p with
  | nil => simp [Command.ofMoves]
  | cons m moves ih =>
    simp only [Command.ofMoves, List.map_cons, List.foldl_cons, Command.apply] at ih ⊢
    rw [ih, Progress.mem_flags_moveTo]
    simp only [List.mem_cons, or_and_right, exists_or, exists_eq_left, or_assoc]

theorem foldl_apply_append_reset_or_restore (p : Progress) (cmds : List Command) :
    (∀ start, (cmds ++ [Command.reset start]).foldl Command.apply p = Progress.start start) ∧
      ∀ saved, (cmds ++ [Command.restore saved]).foldl Command.apply p = saved := by
  constructor <;> intro _ <;> rw [List.foldl_append] <;> rfl

/-- **What a run of commands does to progress.** After moves to `t₁, …, tₖ` (targets with their
nodes `n₁, …, nₖ`) from any progress `p`: the player stands on `tₖ`, or on `p.current` if there
were no moves; the history is `p.history` followed by `p.current, t₁, …, tₖ₋₁`, so it grows by
exactly one node per move; the flags are those of `p` together with every flag `n₁, …, nₖ`
grant, so no flag is lost. Starting over at `x` gives the fresh progress at `x`, and restoring
`s` gives `s` exactly, whatever commands came before. -/
theorem moves_extend_trail (p : Progress) (moves : List (String × Node)) :
    ((Command.ofMoves moves).foldl Command.apply p).current =
        (p.current :: moves.map Prod.fst).getLast (List.cons_ne_nil _ _) ∧
      ((Command.ofMoves moves).foldl Command.apply p).history =
        p.history ++ (p.current :: moves.map Prod.fst).dropLast ∧
      ((Command.ofMoves moves).foldl Command.apply p).history.length =
        p.history.length + moves.length ∧
      (∀ f, f ∈ ((Command.ofMoves moves).foldl Command.apply p).flags ↔
        f ∈ p.flags ∨ ∃ m ∈ moves, f ∈ m.2.granted) ∧
      (∀ f ∈ p.flags, f ∈ ((Command.ofMoves moves).foldl Command.apply p).flags) ∧
      (∀ (cmds : List Command) start,
        (cmds ++ [Command.reset start]).foldl Command.apply p = Progress.start start) ∧
      ∀ (cmds : List Command) saved, (cmds ++ [Command.restore saved]).foldl Command.apply p = saved := by
  have htrail := trail_moves p moves
  -- the trail walked is the old history followed by the path `p.current, t₁, …, tₖ`
  have hpath : ((Command.ofMoves moves).foldl Command.apply p).trail =
      p.history ++ (p.current :: moves.map Prod.fst) := by
    rw [htrail, Progress.trail, List.append_assoc, List.singleton_append]
  have hcurrent : ((Command.ofMoves moves).foldl Command.apply p).current =
      (p.current :: moves.map Prod.fst).getLast (List.cons_ne_nil _ _) := by
    rw [Progress.current_eq_getLast]
    simp only [hpath]
    exact List.getLast_append_of_ne_nil _ _
  have hhistory : ((Command.ofMoves moves).foldl Command.apply p).history =
      p.history ++ (p.current :: moves.map Prod.fst).dropLast := by
    rw [Progress.history_eq_dropLast, hpath, List.dropLast_append_of_ne_nil (List.cons_ne_nil _ _)]
  refine ⟨hcurrent, hhistory, ?_, mem_flags_moves p moves, fun f hf => ?_,
    fun cmds => (foldl_apply_append_reset_or_restore p cmds).1,
    fun cmds => (foldl_apply_append_reset_or_restore p cmds).2⟩
  · simp [hhistory]
  · exact (mem_flags_moves p moves f).2 (.inl hf)

/-- Holding `torch` at `loop` and moving to `loop` again, whose node grants `key`: the player
still holds `torch`, gains `key`, and the history is `loop`, the node they stand on. -/
theorem moves_extend_trail_self_loop :
    "torch" ∈ ({ current := "loop", flags := ["torch"] } : Progress).flags ∧
      "torch" ∈ ((Command.ofMoves [("loop", { id := "loop", grants := some ["key"] })]).foldl
        Command.apply { current := "loop", flags := ["torch"] }).flags ∧
      "key" ∈ ((Command.ofMoves [("loop", { id := "loop", grants := some ["key"] })]).foldl
        Command.apply { current := "loop", flags := ["torch"] }).flags ∧
      ((Command.ofMoves [("loop", { id := "loop", grants := some ["key"] })]).foldl
        Command.apply { current := "loop", flags := ["torch"] }).history = ["loop"] := by
  have h := moves_extend_trail { current := "loop", flags := ["torch"] }
    [("loop", { id := "loop", grants := some ["key"] })]
  refine ⟨List.mem_singleton_self _, h.2.2.2.2.1 "torch" (List.mem_singleton_self _),
    (h.2.2.2.1 "key").2 (.inr ⟨_, List.mem_singleton_self _, ?_⟩), h.2.1.trans rfl⟩
  exact List.mem_singleton_self _

end Novel.Play
