import Novel.Proofs.OperationRuns

/-!
# Music commands follow the stage

A host plays the music through a sink of its own, which knows only the commands the session hands
it: play a track, or stop. This module shows that the sink never drifts from the stage.

* Entering a node or resetting the stage asks to play a track only when that track is not already
  playing, and the stage then plays it; asks to stop only when something plays, and the stage is
  then silent; and asks for nothing only when the stage's music stays as it was.
* Starting and resuming reset the stage and then enter a node, and hand the host one update made
  of both with `Update.andThen`, where the later music command wins. For a sink, applying the
  joined command is the same as applying the two in turn (`hear_andThen`), so nothing is lost.
* So, over any run of a session from the moment it is built, a sink that starts silent and applies
  the music command of every update the operations return, in order, plays exactly what the stage
  plays.

The session statement is proved as usual: one step lemma per operation (`playAfter_run`), then by
induction over the operations.
-/

namespace Novel.Play

open Novel.Story

/-! ## The sink -/

/-- What a host's sink plays after a music command: a play starts the track, a stop silences it,
no command leaves it as it was. -/
def Music.hear (playing : Option String) : Option Music → Option String
  | some (.play src) => some src
  | some .stop => none
  | none => playing

/-- What a sink plays after the music commands of some updates, applied in order. -/
def Music.playAfter (playing : Option String) (us : List Update) : Option String :=
  us.foldl (fun p u => Music.hear p u.music) playing

@[simp] theorem Music.playAfter_nil (playing : Option String) :
    Music.playAfter playing [] = playing := rfl

theorem Music.playAfter_append (playing : Option String) (us vs : List Update) :
    Music.playAfter playing (us ++ vs) = Music.playAfter (Music.playAfter playing us) vs :=
  List.foldl_append

@[simp] theorem Music.playAfter_singleton (playing : Option String) (u : Update) :
    Music.playAfter playing [u] = Music.hear playing u.music := rfl

theorem Music.hear_andThen (playing : Option String) (a b : Update) :
    Music.hear playing (a.andThen b).music = Music.hear (Music.hear playing a.music) b.music := by
  cases hb : b.music with
  | none => simp [Update.andThen, hb, Music.hear]
  | some c => cases c <;> simp [Update.andThen, hb, Music.hear]

/-- A music command that mirrors a change of the stage's music: a play names a track that was
not playing and now plays, a stop comes when something played and now nothing does, and no
command comes when the music is as it was. -/
def Music.Mirrors (before after : Option String) : Option Music → Prop
  | some (.play src) => before ≠ some src ∧ after = some src
  | some .stop => before.isSome ∧ after = none
  | none => after = before

/-- A sink that played what the stage played before a mirrored change plays what it plays
after. -/
theorem Music.hear_of_mirrors {before after : Option String} {c : Option Music}
    (h : Music.Mirrors before after c) : Music.hear before c = after := by
  match c, h with
  | some (.play src), ⟨_, h⟩ => exact h.symm
  | some .stop, ⟨_, h⟩ => exact h.symm
  | none, h => exact h.symm

/-! ## Entering and resetting -/

namespace Stage

/-- The music a stage plays after a music cue, and the command that says so. -/
def musicStep (base : Option String) (playing : Option String) : Cue → Option String × Option Music
  | .asset v =>
    if playing == some (Cue.resolve base v) then (playing, none)
    else (some (Cue.resolve base v), some (.play (Cue.resolve base v)))
  | .stop | .clear =>
    match playing with
    | some _ => (none, some .stop)
    | none => (none, none)
  | .keep => (playing, none)

/-- Only the music cue decides the music of entering: the background and the slots leave it as
it was. -/
theorem enter_music (s : Stage) (n : Node) (base : Option String) :
    ((s.enter n base).1.music, (s.enter n base).2.music) =
      musicStep base s.music (Cue.ofCell n.music) := by
  unfold enter
  split
  rename_i t changed hbg
  -- a new background empties the slots but keeps the music
  have ht : t.music = s.music := by
    split at hbg
    · split at hbg <;> (simp only [Prod.mk.injEq] at hbg; rw [← hbg.1])
    · simp only [Prod.mk.injEq] at hbg
      rw [← hbg.1]
  cases Cue.ofCell n.music with
  | asset v => by_cases hp : s.music = some (Cue.resolve base v) <;> simp [ht, hp, musicStep]
  | stop => cases hs : s.music <;> simp [ht, hs, musicStep]
  | clear => cases hs : s.music <;> simp [ht, hs, musicStep]
  | keep => simp [ht, musicStep]

theorem enter_mirrors (s : Stage) (n : Node) (base : Option String) :
    Music.Mirrors s.music (s.enter n base).1.music (s.enter n base).2.music := by
  have h := enter_music s n base
  cases hm : Cue.ofCell n.music with
  | asset v =>
    by_cases hp : s.music = some (Cue.resolve base v)
    · simp only [hm, musicStep, hp, beq_self_eq_true, if_true, Prod.mk.injEq] at h
      simp [Music.Mirrors, h.1, h.2, hp]
    · simp only [hm, musicStep, beq_iff_eq, hp, if_false, Prod.mk.injEq] at h
      simp [Music.Mirrors, h.1, h.2, hp]
  | stop | clear =>
    cases hs : s.music <;> simp only [hm, musicStep, hs, Prod.mk.injEq] at h <;>
      simp [Music.Mirrors, h.1, h.2]
  | keep =>
    simp only [hm, musicStep, Prod.mk.injEq] at h
    simp [Music.Mirrors, h.1, h.2]

theorem reset_mirrors (s : Stage) : Music.Mirrors s.music s.reset.1.music s.reset.2.music := by
  cases h : s.music with
  | none => simp [reset, h, Music.Mirrors]
  | some src => simp [reset, h, Music.Mirrors]

end Stage

end Novel.Play

namespace Novel.Play.Session

open Novel.Story Novel.Save

variable {σ : Type}

/-! ## Each operation keeps the sink in step -/

section

variable (x : Session σ × List Event)

theorem enterCurrent_hears :
    Music.hear x.1.stage.music ((enterCurrent : Act σ Update).run x).run.1.music =
      ((enterCurrent : Act σ Update).run x).run.2.1.stage.music := by
  cases h : x.1.currentNode with
  | none =>
    rw [enterCurrent_none x h]
    rfl
  | some n =>
    rw [enterCurrent_some x h]
    exact Music.hear_of_mirrors (Stage.enter_mirrors _ _ _)

/-- Re-entering hands the reset's update joined with the entry's, which a sink hears as the
two in turn. -/
theorem reenter_hears :
    Music.hear x.1.stage.music ((reenter : Act σ Update).run x).run.1.music =
      ((reenter : Act σ Update).run x).run.2.1.stage.music := by
  rw [reenter_run, Music.hear_andThen, Music.hear_of_mirrors (Stage.reset_mirrors _)]
  exact enterCurrent_hears ({ x.1 with stage := x.1.stage.reset.1 }, x.2)

theorem start_hears :
    Music.hear x.1.stage.music ((start : Act σ Update).run x).run.1.music =
      ((start : Act σ Update).run x).run.2.1.stage.music := by
  rw [start_run]
  exact reenter_hears _

theorem loadBook_hears (b : Book) :
    Music.hear x.1.stage.music ((loadBook b : Act σ Update).run x).run.1.music =
      ((loadBook b : Act σ Update).run x).run.2.1.stage.music := by
  rw [loadBook_run]
  exact reenter_hears _

theorem resumed_hears (p : Progress) :
    Music.hear x.1.stage.music (resumed x p).1.music = (resumed x p).2.1.stage.music :=
  reenter_hears _

end

variable [Slots σ]

/-- Arriving enters the target; saving afterwards touches only the store. -/
theorem arrive_hears (x : Session σ × List Event) (id : String) (target : Node) :
    Music.hear x.1.stage.music ((arrive id target : Act σ Update).run x).run.1.music =
      ((arrive id target : Act σ Update).run x).run.2.1.stage.music := by
  rw [arrive_run]
  split
  · exact enterCurrent_hears _
  · exact enterCurrent_hears _

/-! ## What the operations hand the host -/

/-- The stage updates an operation hands the host: the update of a start, a restart, a loaded
book, a move made by a selection, a move committed by a tick, and a successful continue or
import. -/
def Op.updates (o : Op) (s : Session σ) : List Update :=
  match o with
  | .start => [((Session.start : Act σ Update).run (s, [])).run.1]
  | .restart => [((Session.restart : Act σ Update).run (s, [])).run.1]
  | .loadBook b => [((Session.loadBook b : Act σ Update).run (s, [])).run.1]
  | .select i now =>
    match ((Session.select i now : Act σ Outcome).run (s, [])).run.1 with
    | .navigated u => [u]
    | _ => []
  | .tick now => ((Session.tick now : Act σ (Option Update)).run (s, [])).run.1.toList
  | .continueSaved =>
    match ((Session.continueSaved : Act σ _).run (s, [])).run.1 with
    | .ok (some u) => [u]
    | _ => []
  | .importSave json =>
    match ((Session.importSave json : Act σ _).run (s, [])).run.1 with
    | .ok u => [u]
    | _ => []
  | .save | .deleteSave | .prompt | .visibleChoices => []

/-- The updates handed to the host along a run of operations, in order. -/
def updatesAlong : Session σ → List Op → List Update
  | _, [] => []
  | s, o :: os => o.updates s ++ updatesAlong (o.run s) os

/-- **One operation keeps the sink in step**: a sink that plays what the stage plays, and applies
the updates of an operation, plays what the stage plays afterwards. -/
theorem playAfter_run (s : Session σ) (o : Op) :
    Music.playAfter s.stage.music (o.updates s) = (o.run s).stage.music := by
  cases o with
  | start => exact start_hears (s, [])
  | restart => exact start_hears (s, [])
  | loadBook b => exact loadBook_hears (s, []) b
  | select i now =>
    simp only [Op.updates, Op.run]
    cases hidle : s.fade.idle with
    | false => rw [select_busy (s, []) i now hidle]; rfl
    | true =>
      cases hc : s.choiceAt i with
      | none => rw [select_run_noChoice (s, []) i now hidle hc]; rfl
      | some c =>
        cases ht : s.book.node? c.target with
        | none => rw [select_run_dangling (s, []) i now hidle hc ht]; rfl
        | some target =>
          by_cases hf : target.transition = .fade
          · rw [select_run_fade (s, []) i now hidle hc ht hf]; rfl
          · rw [select_run_move (s, []) i now hidle hc ht hf]
            exact arrive_hears _ _ _
  | tick now =>
    simp only [Op.updates, Op.run]
    cases hdue : s.fade.state.dueBy now with
    | none => rw [tick_run_quiet (s, []) hdue]; rfl
    | some p =>
      obtain ⟨pre, step, post, -, -, -, -, htick⟩ := tick_run_due (s, []) hdue
      rw [htick]
      exact arrive_hears _ _ _
  | continueSaved =>
    simp only [Op.updates, Op.run]
    rcases continueSaved_run_cases (s, []) with ⟨hsame, hnot⟩ | ⟨r, -, hrun⟩
    · rw [hsame]
      -- a refused continue hands over nothing
      cases hres : ((continueSaved : Act σ _).run (s, [])).run.1 with
      | error e => rfl
      | ok u? =>
        cases u? with
        | none => rfl
        | some u => exact absurd hres (hnot u)
    · rw [hrun]
      exact resumed_hears _ _
  | importSave json =>
    simp only [Op.updates, Op.run]
    rcases importSave_run_cases (s, []) json with ⟨⟨st, hsame⟩, hnot⟩ | ⟨r, st, -, hrun⟩
    · rw [hsame]
      cases hres : ((importSave json : Act σ _).run (s, [])).run.1 with
      | error e => rfl
      | ok u => exact absurd hres (hnot u)
    · rw [hrun]
      exact resumed_hears _ _
  | save => simp [Op.updates, Op.run, save, current, update]
  | deleteSave => simp [Op.updates, Op.run, deleteSave, current, update]
  | prompt => simp [Op.updates, Op.run, prompt_run']
  | visibleChoices => simp [Op.updates, Op.run, (visibleChoices_run (s, [])).2]

/-- Along any run, a sink that starts with the stage's music plays the stage's music at the
end. -/
theorem playAfter_exec (ops : List Op) (s : Session σ) :
    Music.playAfter s.stage.music (updatesAlong s ops) = (exec ops s).stage.music := by
  induction ops generalizing s with
  | nil => rfl
  | cons o ops ih =>
    rw [updatesAlong, Music.playAfter_append, playAfter_run, ih]
    rfl

end Novel.Play.Session

namespace Novel.Play

open Novel.Story Novel.Save Session

/-- **Music commands follow the stage.** Entering a node and resetting the stage, from any stage
and with any asset base, ask to play a track only when it was not playing and is playing after,
ask to stop only when music played and none plays after, and ask nothing only when the music is
unchanged. And over any run of a built session, a sink that starts silent and applies the music
commands of every update the operations hand back, in order, plays exactly the stage's music,
although starting and resuming join the reset's update and the entry's into one. -/
theorem music_follows_stage :
    (∀ (st : Stage) (n : Node) (base : Option String),
      Music.Mirrors st.music (st.enter n base).1.music (st.enter n base).2.music) ∧
    (∀ st : Stage, Music.Mirrors st.music st.reset.1.music st.reset.2.music) ∧
    (∀ {σ : Type} [Slots σ] {config : ConfigSource} {book : BookSource} {store : σ}
      {events : List Event} {s : Session σ}, build config book store = (events, .ok s) →
      ∀ ops : List Op, Music.playAfter none (updatesAlong s ops) = (exec ops s).stage.music) := by
  refine ⟨Stage.enter_mirrors, Stage.reset_mirrors, ?_⟩
  intro σ _ config book store events s hb ops
  -- a session is built with an empty stage, so the silent sink starts in step
  obtain ⟨c, b, hs⟩ := build_eq hb
  have hsilent : s.stage.music = none := by rw [hs]
  rw [← hsilent]
  exact playAfter_exec ops s

/-- In the sample, starting, choosing the door's fade and ticking to its end leave a silent sink
in step with the stage. -/
theorem sample_music_follows_stage :
    build .default (.loaded sampleBook) ({} : Store) = ([], .ok sampleSession) ∧
      Music.playAfter none (updatesAlong sampleSession [.start, .select 0 0, .tick 600, .tick 1250]) =
        (exec [.start, .select 0 0, .tick 600, .tick 1250] sampleSession).stage.music :=
  have hb : build .default (.loaded sampleBook) ({} : Store) = ([], .ok sampleSession) := rfl
  ⟨hb, music_follows_stage.2.2 hb _⟩

end Novel.Play
