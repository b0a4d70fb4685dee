import Mathlib.Data.List.Basic
import Novel.Proofs.SessionSteps

/-!
# Hiding locked choices

Before a prompt is built, each choice is looked at once. It stays when its target is not a node
of the story, or when the player holds every flag the target requires (a target with no
requirement list requires nothing); otherwise it is hidden and reported. So the choices on offer
are the choices that pass this test, in their order, and the reports are one per hidden choice,
in the same order, each naming the choice's text, its target and the flags the target requires.

Because the test asks only that the player's flags include the required ones, holding more
flags never hides a choice that fewer flags showed: the choices on offer grow as flags are
gained, and a choice whose target requires nothing is always on offer.
-/

namespace Novel.Story

theorem Node.unlockedBy_eq (t : Node) (flags : List String) :
    t.unlockedBy flags = t.required.all (· ∈ flags) := by
  simp [Node.unlockedBy]

end Novel.Story

namespace Novel.Play

open Novel.Story

/-- A choice stays on offer to a player holding `flags`: its target is not in the graph, or the
player holds every flag the target requires. -/
def keeps (graph : Graph) (flags : List String) (c : Choice) : Bool :=
  (graph.get? c.target).all fun t => t.required.all (· ∈ flags)

section

variable (graph : Graph) (flags : List String)

/-- The choices on offer are the choices the test keeps, in their order. -/
theorem visibleChoices_fst (cs : List Choice) :
    (visibleChoices graph flags cs).1 = cs.filter (keeps graph flags) := by
  induction cs with
  | nil => rfl
  | cons c cs ih =>
    simp only [visibleChoices, List.filter_cons]
    cases ht : graph.get? c.target with
    | none => simp [keeps, ht, ih]
    | some t =>
      by_cases hu : t.unlockedBy flags = true
      · have hk : keeps graph flags c = true := by simpa [keeps, ht, Node.unlockedBy_eq] using hu
        simp [hu, hk, ih]
      · have hk : keeps graph flags c = false := by simpa [keeps, ht, Node.unlockedBy_eq] using hu
        simp [hu, hk, ih]

/-- One report per hidden choice, in order, naming the choice and what its target requires. -/
theorem visibleChoices_snd (cs : List Choice) :
    List.Forall₂
      (fun c e => ∃ t, graph.get? c.target = some t ∧
        e = Event.choiceHidden c.text c.target t.required)
      (cs.filter fun c => !keeps graph flags c) (visibleChoices graph flags cs).2 := by
  induction cs with
  | nil => exact .nil
  | cons c cs ih =>
    simp only [visibleChoices, List.filter_cons]
    cases ht : graph.get? c.target with
    | none => simpa [keeps, ht] using ih
    | some t =>
      by_cases hu : t.unlockedBy flags = true
      · have hk : keeps graph flags c = true := by simpa [keeps, ht, Node.unlockedBy_eq] using hu
        simpa [hu, hk] using ih
      · -- the hidden choice heads both lists
        have hk : keeps graph flags c = false := by simpa [keeps, ht, Node.unlockedBy_eq] using hu
        simpa [hu, hk] using List.Forall₂.cons ⟨t, ht, rfl⟩ ih

end

/-- More flags keep every choice that fewer flags kept. -/
theorem keeps_mono {graph : Graph} {flags flags' : List String} (h : flags ⊆ flags')
    {c : Choice} (hc : keeps graph flags c = true) : keeps graph flags' c = true := by
  cases ht : graph.get? c.target with
  | none => simp [keeps, ht]
  | some t =>
    simp only [keeps, ht, Option.all_some, List.all_eq_true, decide_eq_true_eq] at hc ⊢
    exact fun f hf => h (hc f hf)

theorem keeps_of_required_nil {graph : Graph} {flags : List String} {c : Choice}
    (h : ∀ t, graph.get? c.target = some t → t.required = []) : keeps graph flags c = true := by
  cases ht : graph.get? c.target with
  | none => simp [keeps, ht]
  | some t => simp [keeps, ht, h t ht]

/-- **Hiding locked choices.** The choices on offer are those whose target is missing or
unlocked by the flags, in order; each hidden choice is reported once, in order, with what its
target requires; more flags offer a larger subsequence of the choices; and a choice whose target
requires nothing is always offered. -/
theorem visibleChoices_hides_locked (graph : Graph) (flags : List String) (cs : List Choice) :
    (visibleChoices graph flags cs).1 = cs.filter (keeps graph flags) ∧
      List.Forall₂
        (fun c e => ∃ t, graph.get? c.target = some t ∧
          e = Event.choiceHidden c.text c.target t.required)
        (cs.filter fun c => !keeps graph flags c) (visibleChoices graph flags cs).2 ∧
      (∀ flags', flags ⊆ flags' →
        List.Sublist (visibleChoices graph flags cs).1 (visibleChoices graph flags' cs).1) ∧
      (∀ c ∈ cs, (∀ t, graph.get? c.target = some t → t.required = []) →
        c ∈ (visibleChoices graph flags cs).1) := by
  refine ⟨visibleChoices_fst graph flags cs, visibleChoices_snd graph flags cs, ?_, ?_⟩
  · intro flags' h
    rw [visibleChoices_fst, visibleChoices_fst]
    exact List.monotone_filter_right cs fun c => keeps_mono h
  · intro c hc hnil
    rw [visibleChoices_fst]
    exact List.mem_filter.2 ⟨hc, keeps_of_required_nil hnil⟩

end Novel.Play
