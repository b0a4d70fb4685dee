import Novel.Terminal.Shelf
import Novel.Terminal.Log
import Novel.Terminal.Command
import Novel.Play.Session

/-!
# The terminal program

The terminal program plays a story sheet in a terminal. It reads the story, the metadata and
the configuration from files of a disk, prints the title, then shows node after node and reads
one line of input after each:

* the stage changes come first (`~ scene change ~`, music, sound), then the node's speaker and
  text, then the ending mark, the Continue label or the numbered choices, then `> `;
* a number picks that choice; an empty line continues where a Continue prompt stands; `s`,
  `d`, `r` and `q` save, delete the save, restart and quit; at the end of the story anything
  else is answered with how to go on;
* a fade is waited out before the next node shows, with `  . . .` printed when it starts;
* with a save in the slot the program first asks whether to continue it;
* the end of input ends the program as `q` does, without a word.

The program is a machine that takes one line of input (or the end of input) at a time and
writes to its output and error streams; the engine's events go to the error stream as log lines.
`run` feeds it a whole input text. Exit code 1 means the program could not start: bad
arguments, a file it could not read or a story or configuration it could not use.
-/

namespace Novel.Terminal

open Novel.Play Novel.Story

/-- What the program writes: its output and its error stream. -/
structure Output where
  out : String := ""
  err : String := ""
  deriving DecidableEq, Repr, Inhabited

instance : Append Output where
  append a b := ⟨a.out ++ b.out, a.err ++ b.err⟩

/-- A computation that writes to the two streams. -/
abbrev Screen := StateM Output

def say (text : String) : Screen Unit := modify fun o => { o with out := o.out ++ text }

def complain (text : String) : Screen Unit := modify fun o => { o with err := o.err ++ text }

/-- Where the program stands between two lines of input. The clock counts milliseconds since
the start; it moves only while a fade is waited out. -/
inductive Machine where
  /-- The program asked whether to continue the saved game. -/
  | asking (s : Session Saves) (clock : Nat)
  /-- The program showed a prompt and waits for a command. -/
  | reading (s : Session Saves) (p : Prompt) (clock : Nat)
  /-- The program ended with an exit code, leaving the disk as it is. -/
  | exited (code : Nat) (disk : Disk)

/-- The disk as the program leaves it so far. -/
def Machine.disk : Machine → Disk
  | .asking s _ => s.store.disk
  | .reading s _ _ => s.store.disk
  | .exited _ d => d

/-- Run a session operation, logging its events. -/
def perform {α : Type} (s : Session Saves) (a : Act Saves α) : Screen (α × Session Saves) := do
  let (v, s, events) := a.run (s, [])
  complain (logText events)
  return (v, s)

/-- The lines that tell a stage change. -/
def report (u : Update) : String :=
  (if u.sceneChanged then "~ scene change ~\n" else "") ++
  (match u.music with
    | some (.play src) => "[music: " ++ src ++ "]\n"
    | some .stop => "[music stops]\n"
    | none => "") ++
  (match u.sound with
    | some sfx => "[sound: " ++ sfx ++ "]\n"
    | none => "")

/-- The lines that offer a prompt. -/
def offer (p : Prompt) (continueLabel : String) : String :=
  match p with
  | .ending => "-- THE END --\n"
  | .proceed _ => "  [Enter] " ++ continueLabel ++ "\n"
  | .choose cs =>
    String.join ((List.range cs.length).zip cs |>.map fun (i, c) =>
      "  " ++ toString (i + 1) ++ ". " ++ c.text ++ "\n")

/-- Show the current node and its prompt; the prompt is returned. -/
def render (s : Session Saves) : Screen (Prompt × Session Saves) := do
  let (p, s) ← perform s Session.prompt
  match s.currentNode with
  | none => return (p, s)
  | some n =>
    let line := match n.speaker with
      | some speaker => speaker ++ ": " ++ n.displayText
      | none => n.displayText
    say ("\n" ++ line ++ "\n\n" ++ offer p s.config.continueLabel)
    return (p, s)

/-- Show a stage change and the node, then wait for a command. -/
def showAndWait (s : Session Saves) (u : Update) (clock : Nat) : Screen Machine := do
  say (report u)
  let (p, s) ← render s
  say "> "
  return .reading s p clock

/-- A fade takes at most three timed steps: to black, out of black, and off. -/
def fadeSteps : Nat := 3

/-- Wait out a fade: tick at each deadline until none is left. The stage change is that of the
move made in the fade, if one was made. -/
def waitOutFade : Nat → Session Saves → Nat → Option Update → Screen (Update × Session Saves × Nat)
  | 0, s, clock, entered => return (entered.getD {}, s, clock)
  | k + 1, s, clock, entered =>
    match s.fade.deadline with
    | none => return (entered.getD {}, s, clock)
    | some d => do
      let now := max clock d
      let (u?, s) ← perform s (Session.tick now)
      waitOutFade k s now (u?.or entered)

/-- Pick the choice at a position of the prompt. -/
def pick (s : Session Saves) (index clock : Nat) : Screen (Update × Session Saves × Nat) := do
  let (o, s) ← perform s (Session.select index clock)
  match o with
  | .navigated u => return (u, s, clock)
  | .fadeStarted =>
    say "  . . .\n"
    waitOutFade fadeSteps s clock none
  | .danglingTarget =>
    say "(That path leads nowhere yet.)\n"
    return ({}, s, clock)
  | .noSuchChoice =>
    say "No such choice.\n"
    return ({}, s, clock)
  | .ignored => return ({}, s, clock)

/-- A save or a deletion, and what the program says of it. -/
def tell (s : Session Saves) (a : Act Saves (Except PlayerProblem Unit)) (done : String)
    (clock : Nat) : Screen Machine := do
  let (r, s) ← perform s a
  match r with
  | .ok () => say (done ++ "\n")
  | .error e => say ("ERROR: " ++ e.message ++ "\n")
  showAndWait s {} clock

/-- Act on a line read at the prompt `p`. -/
def obey (s : Session Saves) (p : Prompt) (clock : Nat) (line : String) : Screen Machine := do
  let go (index : Nat) : Screen Machine := do
    let (u, s, clock) ← pick s index clock
    showAndWait s u clock
  match Command.read line, p with
  | .quit, _ =>
    say "Goodbye.\n"
    return .exited 0 s.store.disk
  | .save, _ => tell s Session.save "Saved." clock
  | .delete, _ => tell s Session.deleteSave "Save deleted." clock
  | .restart, _ =>
    let (u, s) ← perform s Session.start
    showAndWait s u clock
  | .blank, .proceed _ => go 0
  | _, .ending =>
    say "The story is over. 'r' to restart, 'd' to delete the save, 'q' to quit.\n"
    showAndWait s {} clock
  | .count (n + 1), _ => go n
  | _, _ =>
    say "Pick a number, or s / d / r / q.\n"
    showAndWait s {} clock

/-- Act on the answer to whether to continue the saved game; no answer is a no. -/
def resumeOrStart (s : Session Saves) (clock : Nat) (answer : Option String) : Screen Machine := do
  let (u, s) ←
    if (answer.map answersYes).getD false then do
      let (r, s) ← perform s Session.continueSaved
      match r with
      | .ok (some u) => pure (u, s)
      | .ok none => perform s Session.start
      | .error e =>
        say ("Could not load save: " ++ e.message ++ "\n")
        perform s Session.start
    else perform s Session.start
  showAndWait s u clock

/-- Take one line of input, or the end of input. -/
def Machine.feed (m : Machine) (line : Option String) : Output × Machine :=
  let step (a : Screen Machine) : Output × Machine := let (m, o) := a.run {}; (o, m)
  match m, line with
  | .exited c d, _ => ({}, .exited c d)
  | .asking s clock, answer => step (resumeOrStart s clock answer)
  | .reading s _ _, none => ({}, .exited 0 s.store.disk)
  | .reading s p clock, some l => step (obey s p clock l)

def readOrStop (disk : Disk) (p : Path) : Except String String :=
  (disk.read p).mapError fun e => "Failed to read " ++ p.text ++ ": " ++ e.message ++ "\n"

/-- Load the story and start playing it. -/
def begin (o : Options) (disk : Disk) : Screen Machine := do
  match readOrStop disk o.story, readOrStop disk o.metadata with
  | .error m, _ | .ok _, .error m =>
    complain m
    return .exited 1 disk
  | .ok story, .ok metadata =>
    let config : Session.ConfigSource := match o.config with
      | some p => .file ((disk.read p).mapError OsError.message)
      | none => .default
    let (events, built) :=
      Session.build config (.sheets story metadata) ({ disk := disk, folder := o.saveFolder } : Saves)
    complain (logText events)
    match built with
    | .error e =>
      complain ("ERROR: " ++ e.message ++ "\n")
      return .exited 1 disk
    | .ok s =>
      let m := s.book.metadata
      say ("=== " ++ m.title ++ " ===\n")
      if let some a := m.author then say ("by " ++ a ++ "\n")
      if let some d := m.description then say (d ++ "\n")
      say "\n"
      if s.hasSave then
        say "Continue saved game? [y/N] "
        return .asking s 0
      let (u, s) ← perform s Session.start
      showAndWait s u 0

/-- Start the program with its arguments on a disk. -/
def launch (args : List String) (disk : Disk) : Output × Machine :=
  match Invocation.read args with
  | .usage => ({ err := usageText }, .exited 0 disk)
  | .unknownArgument a => ({ err := "Unknown argument: " ++ a ++ "\n" ++ usageText }, .exited 1 disk)
  | .missingSheets =>
    ({ err := "Both --story and --metadata are required.\n" ++ usageText }, .exited 1 disk)
  | .play o => let (m, out) := (begin o disk).run {}; (out, m)

/-- The paths a run may read or write, given what is known of the disk: the three input
files, the save folder, and the save file of the sheet that the configuration names. A host
that keeps its files elsewhere loads these into a disk, and loads them again once the
configuration is known. -/
def footprint (args : List String) (disk : Disk) : List Path :=
  match Invocation.read args with
  | .play o =>
    let config : Config := match o.config.map disk.read with
      | some (.ok text) => (Config.ofRon text).toOption.getD {}
      | _ => {}
    [o.story, o.metadata] ++ o.config.toList ++
      (o.saveFolder.map fun f => [f, f.join (saveFileName config.sheetId)]).getD []
  | _ => []

/-- The lines of an input text, without their breaks; a last line may lack its break. -/
def inputLines (text : String) : List String :=
  let rec go : List Char → List Char → List String
    | [], [] => []
    | [], cur => [String.ofList cur.reverse]
    | '\n' :: rest, cur => String.ofList cur.reverse :: go rest []
    | c :: rest, cur => go rest (c :: cur)
  go text.toList []

/-- Feed the machine lines, then the end of input until it exits (twice at most: once for the
question about the saved game, once at the prompt). -/
def drive : Machine → List String → Output × Machine
  | m, [] =>
    let (o1, m) := m.feed none
    let (o2, m) := m.feed none
    (o1 ++ o2, m)
  | m, l :: ls =>
    let (o1, m) := m.feed (some l)
    let (o2, m) := drive m ls
    (o1 ++ o2, m)

/-- One run of the program: its exit code, what it wrote and the disk it leaves. -/
structure Run where
  code : Nat
  output : Output
  disk : Disk

/-- Run the program with arguments, an input text and a disk. -/
def run (args : List String) (input : String) (disk : Disk) : Run :=
  let (o1, m) := launch args disk
  let (o2, m) := drive m (inputLines input)
  let code := match m with
    | .exited c _ => c
    | _ => 0
  { code := code, output := o1 ++ o2, disk := m.disk }

end Novel.Terminal
