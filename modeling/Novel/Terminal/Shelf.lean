import Novel.Terminal.Disk
import Novel.Save.Store

/-!
# Saves kept in files

The terminal program keeps each sheet's save in a file of one folder, its *shelf*. The file's
name is the sheet's slot key with every character other than an ASCII letter, digit or `-`
written as `_`, followed by `.json`. Saving makes the folder (and those above it) when missing
and writes the record's pretty JSON; loading reads the file back, and a missing file is an
empty slot; deleting removes the file if there is one. A failure of the disk is a store
problem carrying the system's text.

Without a save folder the program keeps saves in memory. `Saves` is the store it plays with:
the disk, the folder if one was given, and the memory store used when none was.
-/

namespace Novel.Terminal

open Novel.Save

def keepsInName (c : Char) : Bool := c.isAlphanum || c == '-'

def saveFileName (sheetId : String) : String :=
  String.ofList ((slotKey sheetId).toList.map fun c => if keepsInName c then c else '_') ++ ".json"

/-- A folder of save files on a disk. -/
structure Shelf where
  folder : Path
  disk : Disk
  deriving DecidableEq, Repr, Inhabited

namespace Shelf

def slot (s : Shelf) (sheetId : String) : Path := s.folder.join (saveFileName sheetId)

def problem (e : OsError) : Problem := .store e.message

/-- Write a record into its sheet's file, making the folder first; folders made before a
failure stay made. -/
def put (s : Shelf) (r : Record) : Shelf × Except Problem Unit :=
  match s.disk.makeFolders s.folder with
  | (.error e, disk) => ({ s with disk := disk }, .error (problem e))
  | (.ok (), disk) =>
    match disk.write (s.slot r.sheetId) r.toJson with
    | .error e => ({ s with disk := disk }, .error (problem e))
    | .ok written => ({ s with disk := written }, .ok ())

def contains (s : Shelf) (sheetId : String) : Bool := s.disk.contains (s.slot sheetId)

/-- Read the record in a sheet's file; a missing file is an empty slot. -/
def get (s : Shelf) (sheetId : String) : Except Problem (Option Record) :=
  if !s.contains sheetId then .ok none
  else match s.disk.read (s.slot sheetId) with
    | .error e => .error (problem e)
    | .ok text => (Record.ofJson text).map some

/-- Remove a sheet's save file if there is one. -/
def remove (s : Shelf) (sheetId : String) : Shelf × Except Problem Unit :=
  if !s.contains sheetId then (s, .ok ())
  else match s.disk.removeFile (s.slot sheetId) with
    | .error e => (s, .error (problem e))
    | .ok disk => ({ s with disk := disk }, .ok ())

end Shelf

instance : Slots Shelf where
  save := Shelf.put
  load := Shelf.get
  has := Shelf.contains
  delete := Shelf.remove

/-- The store of the terminal program: files in a folder of the disk when one was given, else
a store in memory beside the untouched disk. -/
structure Saves where
  disk : Disk
  folder : Option Path := none
  memory : Store := {}
  deriving DecidableEq, Repr, Inhabited

namespace Saves

def shelf? (s : Saves) : Option Shelf := s.folder.map (⟨·, s.disk⟩)

/-- Apply a change to whichever store is in use. -/
def change (s : Saves) (onShelf : Shelf → Shelf × Except Problem Unit)
    (inMemory : Store → Store) : Saves × Except Problem Unit :=
  match s.shelf? with
  | some sh =>
    let (sh, outcome) := onShelf sh
    ({ s with disk := sh.disk }, outcome)
  | none => ({ s with memory := inMemory s.memory }, .ok ())

end Saves

instance : Slots Saves where
  save s r := s.change (·.put r) (·.put r)
  load s id := match s.shelf? with
    | some sh => sh.get id
    | none => s.memory.get id
  has s id := match s.shelf? with
    | some sh => sh.contains id
    | none => s.memory.contains id
  delete s id := s.change (·.remove id) (·.remove id)

example : saveFileName "local" = "narrative-web-games-save_local.json" := by
  decide

end Novel.Terminal
