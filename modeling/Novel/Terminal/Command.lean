import Novel.Terminal.Disk
import Novel.Text.Cell

/-!
# What the terminal program is told

The program is told what to play by its arguments and what to do by the lines it reads.

**Arguments.** `--story`, `--metadata`, `--config` and `--save` each take the argument after
them as a path, a later one replacing an earlier one; any other argument, or one of these
last with nothing after it, is unknown. No arguments at all, or `--help` or `-h` first, asks
for the usage text. Both the story and the metadata are required.

**Lines.** A line is read with its blanks trimmed and its letters lowered. `q`/`quit`,
`s`/`save`, `d`/`delete` and `r`/`restart` are commands; an empty line continues; a line that
spells a count (ASCII digits after an optional `+`, below 2^64) picks a choice.
-/

namespace Novel.Terminal

/-- The files the program was given. -/
structure Options where
  story : Path
  metadata : Path
  config : Option Path := none
  saveFolder : Option Path := none
  deriving DecidableEq, Repr, Inhabited

/-- What the arguments ask for. -/
inductive Invocation where
  /-- Show how to use the program. -/
  | usage
  /-- An argument the program does not know. -/
  | unknownArgument (arg : String)
  /-- The story or the metadata is missing. -/
  | missingSheets
  /-- Play a story. -/
  | play (o : Options)
  deriving DecidableEq, Repr, Inhabited

/-- The paths given so far. -/
structure Given where
  story : Option Path := none
  metadata : Option Path := none
  config : Option Path := none
  saveFolder : Option Path := none

/-- Read the options one by one; an unknown argument stops the reading. -/
def gather (g : Given) : List String → Except String Given
  | [] => .ok g
  | "--story" :: v :: rest => gather { g with story := some ⟨v⟩ } rest
  | "--metadata" :: v :: rest => gather { g with metadata := some ⟨v⟩ } rest
  | "--config" :: v :: rest => gather { g with config := some ⟨v⟩ } rest
  | "--save" :: v :: rest => gather { g with saveFolder := some ⟨v⟩ } rest
  | a :: _ => .error a

/-- What a list of arguments asks for. -/
def Invocation.read (args : List String) : Invocation :=
  match args with
  | [] | "--help" :: _ | "-h" :: _ => .usage
  | _ =>
    match gather {} args with
    | .error a => .unknownArgument a
    | .ok { story := some s, metadata := some m, config, saveFolder } =>
      .play { story := s, metadata := m, config := config, saveFolder := saveFolder }
    | .ok _ => .missingSheets

/-- How to use the program. -/
def usageText : String :=
  "Usage: play --story <story.csv> --metadata <metadata.csv> [--config <player.ron>] [--save <dir>]\n" ++
  "\n" ++
  "Plays an exported story sheet in the terminal.\n" ++
  "Set RUST_LOG=debug to see engine diagnostics.\n"

/-- What a line at the prompt says. -/
inductive Command where
  | quit
  | save
  | delete
  | restart
  /-- Nothing but blanks. -/
  | blank
  /-- A count. -/
  | count (n : Nat)
  /-- Anything else. -/
  | other
  deriving DecidableEq, Repr, Inhabited

/-- The value of a nonempty run of ASCII digits. -/
def digitsValue (cs : List Char) : Option Nat :=
  if cs.isEmpty || !cs.all Char.isDigit then none
  else some (cs.foldl (fun n c => 10 * n + (c.toNat - '0'.toNat)) 0)

/-- The count a text spells: digits after an optional `+`, below 2^64. -/
def readCount (cs : List Char) : Option Nat :=
  let digits := match cs with
    | '+' :: rest => rest
    | _ => cs
  match digitsValue digits with
  | some n => if n < Nat.pow 2 64 then some n else none
  | none => none

/-- What a line says. -/
def Command.read (line : String) : Command :=
  let cs := line.toList
  if Text.isWord cs "q" || Text.isWord cs "quit" then .quit
  else if Text.isWord cs "s" || Text.isWord cs "save" then .save
  else if Text.isWord cs "d" || Text.isWord cs "delete" then .delete
  else if Text.isWord cs "r" || Text.isWord cs "restart" then .restart
  else
    let t := Text.trim cs
    if t.isEmpty then .blank
    else match readCount t with
      | some n => .count n
      | none => .other

def answersYes (line : String) : Bool :=
  Text.isWord line.toList "y" || Text.isWord line.toList "yes"

example : Command.read " +12\r" = .count 12 := by decide

example : Invocation.read ["--story"] = .unknownArgument "--story" := by
  decide

end Novel.Terminal
