import Novel.Proofs.SessionSteps

/-!
# How a prompt indexes the choices on offer

A prompt is built from the choices left after hiding, and a button index is turned back into a
choice through it. This module says, for every list of choices, what that index reaches.

* A prompt is an ending exactly when no choice is left.
* Under the blank-label policy the prompt indexes exactly like the list: position `i` of the
  prompt is position `i` of the list, and it offers as many entries. A lone unlabeled choice is
  a "continue", which is the same single entry at position 0.
* Under the auto-advance policy the first unlabeled choice, if there is one, becomes the only
  entry, at position 0; with no unlabeled choice the prompt is the blank-label one.
* In every case an entry is one of the choices, and there are no more entries than choices.
-/

namespace Novel.Play.Prompt

open Novel.Story

@[simp] theorem get?_proceed (c : Choice) (i : Nat) :
    (Prompt.proceed c).get? i = if i = 0 then some c else none := by
  simp [get?]

/-- A prompt is an ending exactly when no choice is left. -/
theorem classify_eq_ending_iff (cs : List Choice) (policy : Policy) :
    classify cs policy = .ending ↔ cs = [] := by
  refine ⟨fun h => ?_, fun h => h ▸ rfl⟩
  -- every non-empty list gives a "continue" or a list to choose from
  rcases cs with _ | ⟨c, _ | ⟨c', rest⟩⟩
  · rfl
  · by_cases hc : c.unlabeled <;> simp [classify, hc] at h
  · cases policy with
    | blankLabel => simp [classify] at h
    | autoAdvance =>
      cases hf : List.find? Choice.unlabeled (c :: c' :: rest) <;> simp [classify, hf] at h

/-- Under the blank-label policy the prompt indexes exactly like the list. -/
theorem get?_classify_blankLabel (cs : List Choice) (i : Nat) :
    (classify cs .blankLabel).get? i = cs[i]? := by
  rcases cs with _ | ⟨c, _ | ⟨c', rest⟩⟩
  · simp [classify, get?]
  · -- a lone unlabeled choice is a "continue", whose single entry is at position 0
    by_cases hc : c.unlabeled
    · cases i <;> simp [classify, hc]
    · simp [classify, hc, get?]
  · rfl

/-- Under the blank-label policy the prompt has an entry for every choice. -/
theorem size_classify_blankLabel (cs : List Choice) :
    (classify cs .blankLabel).size = cs.length := by
  rcases cs with _ | ⟨c, _ | ⟨c', rest⟩⟩
  · rfl
  · by_cases hc : c.unlabeled <;> simp [classify, hc, size]
  · rfl

/-- Under the auto-advance policy the first unlabeled choice, if any, is the "continue";
otherwise the prompt is the blank-label one. -/
theorem classify_autoAdvance (cs : List Choice) :
    classify cs .autoAdvance =
      (cs.find? Choice.unlabeled).elim (classify cs .blankLabel) Prompt.proceed := by
  rcases cs with _ | ⟨c, _ | ⟨c', rest⟩⟩
  · rfl
  · by_cases hc : c.unlabeled <;> simp [classify, hc]
  · cases hf : List.find? Choice.unlabeled (c :: c' :: rest) <;> simp [classify, hf]

theorem find?_unlabeled_of_first {cs pre post : List Choice} {c : Choice}
    (hcs : cs = pre ++ c :: post) (hpre : ∀ d ∈ pre, d.unlabeled = false)
    (hc : c.unlabeled = true) : cs.find? Choice.unlabeled = some c :=
  List.find?_eq_some_iff_append.2 ⟨hc, pre, post, hcs, fun d hd => by simp [hpre d hd]⟩

/-- A prompt never offers more entries than there are choices. -/
theorem size_classify_le (cs : List Choice) (policy : Policy) :
    (classify cs policy).size ≤ cs.length := by
  cases policy with
  | blankLabel => exact Nat.le_of_eq (size_classify_blankLabel cs)
  | autoAdvance =>
    rw [classify_autoAdvance]
    cases hf : cs.find? Choice.unlabeled with
    | none => exact Nat.le_of_eq (size_classify_blankLabel cs)
    | some c =>
      -- the "continue" is a choice of the list, so the list is not empty
      have hmem : c ∈ cs := List.mem_of_find?_eq_some hf
      exact List.length_pos_of_mem hmem

/-- **What a prompt offers at each index.** For every list of choices: the prompt is an ending
exactly when the list is empty; under the blank-label policy it indexes exactly like the list,
with a lone unlabeled choice a "continue" at position 0; under the auto-advance policy the
first unlabeled choice is the only entry, at position 0, and with no unlabeled choice the
prompt is the blank-label one; and every entry is one of the choices, no more entries than
choices. -/
theorem classify_indexes_choices (cs : List Choice) :
    (∀ policy, classify cs policy = .ending ↔ cs = []) ∧
    (∀ i, (classify cs .blankLabel).get? i = cs[i]?) ∧
    (classify cs .blankLabel).size = cs.length ∧
    (∀ c, cs = [c] → c.unlabeled = true → classify cs .blankLabel = .proceed c) ∧
    (∀ pre c post, cs = pre ++ c :: post → (∀ d ∈ pre, d.unlabeled = false) →
      c.unlabeled = true →
      classify cs .autoAdvance = .proceed c ∧ (classify cs .autoAdvance).get? 0 = some c ∧
        ∀ i, 0 < i → (classify cs .autoAdvance).get? i = none) ∧
    ((∀ c ∈ cs, c.unlabeled = false) → classify cs .autoAdvance = classify cs .blankLabel) ∧
    (∀ policy i c, (classify cs policy).get? i = some c → c ∈ cs) ∧
    (∀ policy, (classify cs policy).size ≤ cs.length) := by
  refine ⟨classify_eq_ending_iff cs, get?_classify_blankLabel cs, size_classify_blankLabel cs,
    ?_, ?_, ?_, fun _ _ _ h => mem_of_get? h, size_classify_le cs⟩
  · rintro c rfl hc
    simp [classify, hc]
  · intro pre c post hcs hpre hc
    have hfirst : classify cs .autoAdvance = .proceed c := by
      rw [classify_autoAdvance, find?_unlabeled_of_first hcs hpre hc]
      rfl
    refine ⟨hfirst, by simp [hfirst], fun i hi => ?_⟩
    simp [hfirst, Nat.pos_iff_ne_zero.1 hi]
  · intro hnone
    have hf : cs.find? Choice.unlabeled = none := List.find?_eq_none.2 (by simpa using hnone)
    rw [classify_autoAdvance, hf]
    rfl

/-- A labelled "Go" followed by an unlabeled choice: auto-advance offers the unlabeled one
alone, at position 0, while the blank-label prompt keeps it at position 1. -/
theorem classify_indexes_go_then_continue :
    [(⟨"Go", "open", .plain⟩ : Choice), ⟨"", "locked", .plain⟩] =
        [⟨"Go", "open", .plain⟩] ++ ⟨"", "locked", .plain⟩ :: [] ∧
      (∀ d ∈ [(⟨"Go", "open", .plain⟩ : Choice)], d.unlabeled = false) ∧
      (⟨"", "locked", .plain⟩ : Choice).unlabeled = true ∧
      classify [⟨"Go", "open", .plain⟩, ⟨"", "locked", .plain⟩] .autoAdvance =
        .proceed ⟨"", "locked", .plain⟩ ∧
      (classify [⟨"Go", "open", .plain⟩, ⟨"", "locked", .plain⟩] .blankLabel).get? 1 =
        some ⟨"", "locked", .plain⟩ := by
  have h := classify_indexes_choices [⟨"Go", "open", .plain⟩, ⟨"", "locked", .plain⟩]
  exact ⟨rfl, by decide, by decide,
    (h.2.2.2.2.1 [⟨"Go", "open", .plain⟩] ⟨"", "locked", .plain⟩ [] rfl (by decide)
      (by decide)).1, h.2.1 1⟩

end Novel.Play.Prompt
