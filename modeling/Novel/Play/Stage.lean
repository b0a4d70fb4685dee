import Novel.Story.Node
import Novel.Story.Cue

/-!
# The stage

The stage is what the screen shows: a background, three portrait slots, the music playing and a
count of scenes. Entering a node applies its cues.

* A background cue that changes the background starts a new scene: the count goes up and the
  three slots are emptied.
* Each slot then takes its cue. The speaker's portrait stands in for the image of the slot
  where the speaker stands, when it is set.
* A music asset plays unless it already plays; `stop`, `clear` and `none` stop the music if
  any plays.
* A sound effect plays once and leaves no trace.

Entering reports what changed for the host: a music command, a sound effect and whether the
scene changed. Resetting empties the stage, stops the music and counts a new scene when
anything was shown.
-/

namespace Novel.Play

open Novel.Story

/-- An instruction to the host's music player. -/
inductive Music where
  | play (src : String)
  | stop
  deriving DecidableEq, Repr, Inhabited

/-- What the host must do after a stage change. -/
structure Update where
  music : Option Music := none
  sound : Option String := none
  sceneChanged : Bool := false
  deriving DecidableEq, Repr, Inhabited

/-- Two updates in a row: the later music and sound win, a scene change is kept. -/
def Update.andThen (a b : Update) : Update :=
  { music := b.music <|> a.music, sound := b.sound <|> a.sound,
    sceneChanged := a.sceneChanged || b.sceneChanged }

/-- What the screen shows. -/
structure Stage where
  background : Option String := none
  left : Option String := none
  center : Option String := none
  right : Option String := none
  music : Option String := none
  scene : Nat := 0
  deriving DecidableEq, Repr, Inhabited

namespace Stage

/-- The image a slot is shown with, if the slot is filled. -/
def slot (s : Stage) : Position → Option String
  | .left => s.left
  | .center => s.center
  | .right => s.right

/-- The cell that drives a slot: the speaker's portrait where the speaker stands, if set. -/
def slotCell (n : Node) (p : Position) : Option String :=
  let own := match p with
    | .left => n.leftImage
    | .center => n.centerImage
    | .right => n.rightImage
  if n.position == some p then
    match n.speakerImage with
    | some img => if img.isEmpty then own else some img
    | none => own
  else own

/-- The new content of a layer under a cue, or `none` when the cue leaves it alone. -/
def layerCue (base : Option String) : Cue → Option (Option String)
  | .asset v => some (some (Cue.resolve base v))
  | .clear => some none
  | _ => none

/-- Apply a cue to a slot's content. -/
def applyCue (base : Option String) (cell : Option String) (current : Option String) :
    Option String :=
  (layerCue base (Cue.ofCell cell)).getD current

/-- Enter a node, with asset names resolved against `base`. -/
def enter (s : Stage) (n : Node) (base : Option String) : Stage × Update :=
  -- the background first: a new one starts a scene
  let (s, changed) :=
    match layerCue base (Cue.ofCell n.background) with
    | some bg =>
      if bg != s.background then
        ({ s with background := bg, scene := s.scene + 1, left := none, center := none,
                  right := none }, true)
      else ({ s with background := bg }, false)
    | none => (s, false)
  let s := { s with
    left := applyCue base (slotCell n .left) s.left
    center := applyCue base (slotCell n .center) s.center
    right := applyCue base (slotCell n .right) s.right }
  let (s, music) :=
    match Cue.ofCell n.music with
    | .asset v =>
      let src := Cue.resolve base v
      if s.music == some src then (s, none) else ({ s with music := some src }, some (Music.play src))
    | .stop | .clear =>
      match s.music with
      | some _ => ({ s with music := none }, some Music.stop)
      | none => (s, none)
    | .keep => (s, none)
  let sound := match Cue.ofCell n.sound with
    | .asset v => some (Cue.resolve base v)
    | _ => none
  (s, { music := music, sound := sound, sceneChanged := changed })

/-- Empty the stage. -/
def reset (s : Stage) : Stage × Update :=
  let music := s.music.map (fun _ => Music.stop)
  let changed := s.background.isSome || s.left.isSome || s.center.isSome || s.right.isSome
  ({ scene := if changed then s.scene + 1 else s.scene },
   { music := music, sceneChanged := changed })

end Stage

end Novel.Play
