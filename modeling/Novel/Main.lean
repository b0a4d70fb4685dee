import Novel.Terminal.Program

/-!
# The command line

`play --story <story.csv> --metadata <metadata.csv> [--config <player.ron>] [--save <dir>]`
plays a story sheet in the terminal. The program itself is `Novel.Terminal`; this file only
connects it to the real files and streams. The paths the program may touch are loaded into a
disk first; after each line of input the program's output is written out and every change
to the disk is made on the real files. Saves are stamped with the session's clock, which this
command line leaves at the epoch.
-/

open Novel.Terminal

/-- What a path holds on the real file system: the text of a file, a folder, or nothing. -/
def probe (path : String) : IO (Option Entry) := do
  try
    return some (.file (← IO.FS.readFile path))
  catch
    | .inappropriateType _ 21 _ => return some .folder
    | _ => return none

def pathText (names : List String) : String := "/".intercalate names

/-- Add to a disk what the real file system holds at each path and at every place on the way
to it. -/
def load (disk : Disk) (paths : List Path) : IO Disk := do
  let mut disk := disk
  for p in paths do
    for names in Disk.placesFrom [] p.names do
      if (disk.entry? names).isNone then
        if let some e ← probe (pathText names) then
          disk := disk.set names e
  return disk

/-- Make on the real file system the changes from one disk to the next. -/
def sync (before after : Disk) : IO Unit := do
  for (names, e) in Disk.changes before after do
    match e with
    | some .folder => IO.FS.createDir (pathText names)
    | some (.file text) => IO.FS.writeFile (pathText names) text
    | none => IO.FS.removeFile (pathText names)

/-- Write what the program wrote. -/
def emit (o : Output) : IO Unit := do
  let out ← IO.getStdout
  out.putStr o.out
  out.flush
  let err ← IO.getStderr
  err.putStr o.err
  err.flush

/-- A line of input without its break, or nothing at the end of input. -/
def nextLine (stdin : IO.FS.Stream) : IO (Option String) := do
  let line ← stdin.getLine
  if line.isEmpty then return none
  let cs := line.toList
  return some (String.ofList (if cs.getLast? == some '\n' then cs.dropLast else cs))

/-- Feed the program lines until it exits. -/
partial def interact (stdin : IO.FS.Stream) (m : Machine) : IO UInt32 := do
  match m with
  | .exited code _ => return code.toUInt32
  | _ =>
    let line ← nextLine stdin
    let (o, m') := m.feed line
    emit o
    sync m.disk m'.disk
    interact stdin m'

def main (args : List String) : IO UInt32 := do
  let first ← load {} (footprint args {})
  let disk ← load first (footprint args first)
  let (o, m) := launch args disk
  emit o
  sync disk m.disk
  interact (← IO.getStdin) m
