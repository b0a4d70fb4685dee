import Mathlib.Data.List.Induction
import Novel.Proofs.MusicSink

/-!
# The stage shows the last cue of each layer

Entering a node changes the stage in place: a new background opens a scene and empties the three
slots, then each slot takes its cue, then the music its cue. This module reads the stage off the
nodes entered instead, one layer at a time, starting from a stage that shows nothing (one just
made or just reset):

* the background is the one set by the last background cue that sets one (an asset, or nothing
  for `clear`), and nothing when no cue sets one;
* the music is the one set by the last music cue that sets it, `stop` and `clear` setting
  silence;
* a node opens a scene when its background cue sets a background other than the one the nodes
  before it left, and the scene count goes up by one for each such node;
* a slot shows what the last cue for it set among the nodes entered since the last node that
  opened a scene, that node included (or since the start, when none did); the speaker's portrait
  stands in for the slot's own cell where the speaker stands.

Main statement (`enterAll_showsCues`). It is proved as a run of steps: `enter_fst` says what one
entry does to each layer, and each declarative reading takes one node at the end the same way
(`lastSet_append_singleton`, `sceneOpenings_append_singleton`, `sinceScene_append_singleton`).
-/

namespace Novel.Play

open Novel.Story

namespace Stage

/-! ## Cues as settings of a layer -/

def bgCue (base : Option String) (n : Node) : Option (Option String) :=
  layerCue base (Cue.ofCell n.background)

/-- The image a node's cue sets in a slot, if it sets one. -/
def slotCue (base : Option String) (p : Position) (n : Node) : Option (Option String) :=
  layerCue base (Cue.ofCell (slotCell n p))

/-- The music a node's cue sets, if it sets any: a track, or silence for `stop` and `clear`. -/
def musicCue (base : Option String) (n : Node) : Option (Option String) :=
  match Cue.ofCell n.music with
  | .asset v => some (some (Cue.resolve base v))
  | .stop | .clear => some none
  | .keep => none

/-- What the last cue that sets a layer set it to; nothing when no cue sets it. -/
def lastSet (cues : List (Option (Option String))) : Option String :=
  ((cues.filterMap id).getLast?).join

/-- A background cue opens a scene when it sets a background other than the one shown. -/
def opensScene (cue : Option (Option String)) (shown : Option String) : Bool :=
  match cue with
  | some bg => bg != shown
  | none => false

/-- The positions of the nodes that open a scene: each sets a background other than the last
one set by the nodes before it. -/
def sceneOpenings (base : Option String) (ns : List Node) : List Nat :=
  (List.range ns.length).filter fun i =>
    match ns.drop i with
    | n :: _ => opensScene (bgCue base n) (lastSet ((ns.take i).map (bgCue base)))
    | [] => false

/-- The nodes entered since the last one that opened a scene, that one included; all of them
when none did. -/
def sinceScene (base : Option String) (ns : List Node) : List Node :=
  ns.drop ((sceneOpenings base ns).getLast?.getD 0)

/-- A stage that shows nothing and plays nothing, whatever its scene count. -/
structure Bare (s : Stage) : Prop where
  background : s.background = none
  slot : ∀ p, s.slot p = none
  music : s.music = none

theorem bare_new : Bare ({} : Stage) :=
  ⟨rfl, fun p => by cases p <;> rfl, rfl⟩

theorem bare_reset (s : Stage) : Bare s.reset.1 :=
  ⟨rfl, fun p => by cases p <;> rfl, rfl⟩

def enterAll (s : Stage) (base : Option String) (ns : List Node) : Stage :=
  ns.foldl (fun s n => (s.enter n base).1) s

/-- What a stage shows after entering `ns` from `s`, read off the cues alone. -/
structure ShowsCues (base : Option String) (s : Stage) (ns : List Node) (t : Stage) : Prop where
  background : t.background = lastSet (ns.map (bgCue base))
  slot : ∀ p, t.slot p = lastSet ((sinceScene base ns).map (slotCue base p))
  music : t.music = lastSet (ns.map (musicCue base))
  scene : t.scene = s.scene + (sceneOpenings base ns).length

/-! ## One entry -/

/-- What entering a node does to each layer: the background cue is applied first, and opening a
scene empties the slots before their own cues apply. -/
theorem enter_fst (s : Stage) (n : Node) (base : Option String) :
    (s.enter n base).1 =
      { background := (bgCue base n).getD s.background
        left := (slotCue base .left n).getD
          (if opensScene (bgCue base n) s.background then none else s.left)
        center := (slotCue base .center n).getD
          (if opensScene (bgCue base n) s.background then none else s.center)
        right := (slotCue base .right n).getD
          (if opensScene (bgCue base n) s.background then none else s.right)
        music := (musicCue base n).getD s.music
        scene := if opensScene (bgCue base n) s.background then s.scene + 1 else s.scene } := by
  unfold enter
  split
  rename_i t changed hbg
  -- the background cue comes first, and opening a scene empties the slots
  have ht : t = { s with
      background := (bgCue base n).getD s.background
      left := if opensScene (bgCue base n) s.background then none else s.left
      center := if opensScene (bgCue base n) s.background then none else s.center
      right := if opensScene (bgCue base n) s.background then none else s.right
      scene := if opensScene (bgCue base n) s.background then s.scene + 1 else s.scene } := by
    unfold bgCue
    cases hcue : layerCue base (Cue.ofCell n.background) with
    | none =>
      simp only [hcue, Prod.mk.injEq] at hbg
      simp [← hbg.1, opensScene]
    | some bg =>
      simp only [hcue] at hbg
      by_cases hsame : bg = s.background
      · simp only [hsame, bne_self_eq_false, Bool.false_eq_true, if_false, Prod.mk.injEq] at hbg
        simp [← hbg.1, hsame, opensScene]
      · simp only [bne_iff_ne, ne_eq, hsame, not_false_eq_true, if_true, Prod.mk.injEq] at hbg
        simp [← hbg.1, hsame, opensScene]
  subst ht
  -- then the slots take their cues, and the music cue touches the music alone
  unfold slotCue musicCue
  cases hm : Cue.ofCell n.music with
  | asset v => by_cases hp : s.music = some (Cue.resolve base v) <;> simp [hp, applyCue]
  | stop | clear => cases s.music <;> simp [applyCue]
  | keep => simp [applyCue]

theorem enter_background (s : Stage) (n : Node) (base : Option String) :
    (s.enter n base).1.background = (bgCue base n).getD s.background := by
  rw [enter_fst]

theorem enter_slot (s : Stage) (n : Node) (base : Option String) (p : Position) :
    (s.enter n base).1.slot p =
      (slotCue base p n).getD (if opensScene (bgCue base n) s.background then none else s.slot p) := by
  cases p <;> rw [enter_fst] <;> rfl

theorem enter_music_cue (s : Stage) (n : Node) (base : Option String) :
    (s.enter n base).1.music = (musicCue base n).getD s.music := by
  rw [enter_fst]

theorem enter_scene (s : Stage) (n : Node) (base : Option String) :
    (s.enter n base).1.scene =
      if opensScene (bgCue base n) s.background then s.scene + 1 else s.scene := by
  rw [enter_fst]

/-! ## One node more -/

@[simp] theorem lastSet_nil : lastSet [] = none := rfl

theorem lastSet_singleton (c : Option (Option String)) : lastSet [c] = c.getD none := by
  cases c <;> rfl

theorem lastSet_append_singleton (cues : List (Option (Option String))) (c : Option (Option String)) :
    lastSet (cues ++ [c]) = c.getD (lastSet cues) := by
  cases c <;> simp [lastSet, List.filterMap_append]

theorem lt_of_mem_sceneOpenings {base : Option String} {ns : List Node} {i : Nat}
    (h : i ∈ sceneOpenings base ns) : i < ns.length := by
  simp only [sceneOpenings, List.mem_filter, List.mem_range] at h
  exact h.1

/-- A node entered last opens a scene after the openings among the nodes before it, when it
sets a background other than the last one they set. -/
theorem sceneOpenings_append_singleton (base : Option String) (ns : List Node) (n : Node) :
    sceneOpenings base (ns ++ [n]) =
      sceneOpenings base ns ++
        if opensScene (bgCue base n) (lastSet (ns.map (bgCue base))) then [ns.length] else [] := by
  unfold sceneOpenings
  rw [List.length_append, List.length_singleton, List.range_succ, List.filter_append]
  congr 1
  · -- a node inside `ns` sees the same nodes before it
    apply List.filter_congr
    intro i hi
    have hlt : i < ns.length := List.mem_range.1 hi
    rw [List.take_append_of_le_length (Nat.le_of_lt hlt), List.drop_append_of_le_length (Nat.le_of_lt hlt),
      List.drop_eq_getElem_cons hlt]
    rfl
  · by_cases h : opensScene (bgCue base n) (lastSet (ns.map (bgCue base))) <;> simp [h]

/-- The nodes since the last scene opening: the last node alone when it opens a scene, and one
more node otherwise. -/
theorem sinceScene_append_singleton (base : Option String) (ns : List Node) (n : Node) :
    sinceScene base (ns ++ [n]) =
      if opensScene (bgCue base n) (lastSet (ns.map (bgCue base))) then [n]
      else sinceScene base ns ++ [n] := by
  unfold sinceScene
  rw [sceneOpenings_append_singleton]
  by_cases h : opensScene (bgCue base n) (lastSet (ns.map (bgCue base)))
  · simp [h]
  · simp only [h, Bool.false_eq_true, if_false, List.append_nil]
    -- the last opening, if any, lies inside `ns`
    have hle : (sceneOpenings base ns).getLast?.getD 0 ≤ ns.length := by
      cases hl : (sceneOpenings base ns).getLast? with
      | none => simp
      | some j => exact Nat.le_of_lt (lt_of_mem_sceneOpenings (List.mem_of_getLast? hl))
    exact List.drop_append_of_le_length hle

@[simp] theorem enterAll_nil (s : Stage) (base : Option String) : s.enterAll base [] = s := rfl

theorem enterAll_append_singleton (s : Stage) (base : Option String) (ns : List Node) (n : Node) :
    s.enterAll base (ns ++ [n]) = ((s.enterAll base ns).enter n base).1 :=
  List.foldl_append

/-! ## A run of entries -/

/-- **The stage shows the last cue of each layer.** After entering any nodes from a stage that
shows nothing (as `bare_new` and `bare_reset` give), the background and the music are the ones
the last cues setting them set, each slot is the one set by its last cue since the last node
that opened a scene, and the scene count has gone up by one for each node that opened one. -/
theorem enterAll_showsCues {s : Stage} (hs : s.Bare) (base : Option String) (ns : List Node) :
    ShowsCues base s ns (s.enterAll base ns) := by
  induction ns using List.reverseRecOn with
  | nil =>
    exact ⟨hs.background, fun p => by simpa [sinceScene, sceneOpenings] using hs.slot p,
      hs.music, by simp [sceneOpenings]⟩
  | append_singleton ns n ih =>
    -- whether `n` opens a scene is read off the background the nodes before it left
    have hopen : opensScene (bgCue base n) (s.enterAll base ns).background =
        opensScene (bgCue base n) (lastSet (ns.map (bgCue base))) := by
      rw [ih.background]
    rw [enterAll_append_singleton]
    constructor
    · rw [enter_background, ih.background, List.map_append, List.map_singleton,
        lastSet_append_singleton]
    · intro p
      rw [enter_slot, hopen, sinceScene_append_singleton]
      by_cases h : opensScene (bgCue base n) (lastSet (ns.map (bgCue base)))
      · simp [h, lastSet_singleton]
      · simp [h, lastSet_append_singleton, ih.slot p]
    · rw [enter_music_cue, ih.music, List.map_append, List.map_singleton,
        lastSet_append_singleton]
    · rw [enter_scene, hopen, sceneOpenings_append_singleton]
      by_cases h : opensScene (bgCue base n) (lastSet (ns.map (bgCue base)))
      · simp [h, ih.scene]
        omega
      · simp [h, ih.scene]

/-- Entering a forest with a guide, the same forest, then a cave with a bat, from a new stage:
the stage follows the cues of the three nodes. -/
theorem sample_stage_shows_cues :
    Bare ({} : Stage) ∧
      ShowsCues none {}
        [{ id := "a", background := some "forest.png", centerImage := some "guide.png" },
          { id := "b", background := some "forest.png" },
          { id := "c", background := some "cave.png", leftImage := some "bat.png" }]
        (({} : Stage).enterAll none
          [{ id := "a", background := some "forest.png", centerImage := some "guide.png" },
            { id := "b", background := some "forest.png" },
            { id := "c", background := some "cave.png", leftImage := some "bat.png" }]) :=
  ⟨bare_new, enterAll_showsCues bare_new _ _⟩

-- the cave opens the second scene and empties the guide's slot
example :
    (({} : Stage).enterAll none
      [{ id := "a", background := some "forest.png", centerImage := some "guide.png" },
        { id := "b", background := some "forest.png" },
        { id := "c", background := some "cave.png", leftImage := some "bat.png" }]) =
      { background := some "cave.png", left := some "bat.png", scene := 2 } := by
  decide +kernel

end Stage

end Novel.Play
