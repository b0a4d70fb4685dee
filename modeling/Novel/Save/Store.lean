import Novel.Save.Text

/-!
# Save stores

A save store keeps one slot per sheet. The player talks to any store through `Slots`: saving a
record replaces the record of its sheet, loading gives the record of a sheet or nothing, and a
store may fail. A change reports the store as it is afterwards with its outcome, since a
change that fails may still have done part of its work.

`Store` is the store kept in memory: a table from keys to texts, the way a browser's key-value
storage holds them. The key of a sheet's slot is the sheet id behind a fixed prefix, a record
is kept as its JSON text, and loading reads the text back, so a slot filled with other text
fails to load.
-/

namespace Novel.Save

def keyPrefix : String := "narrative-web-games-save:"

def slotKey (sheetId : String) : String := keyPrefix ++ sheetId

/-- What the player needs of a save store. -/
class Slots (σ : Type) where
  /-- Write a record into the slot of its sheet: the store afterwards, and how it went. -/
  save : σ → Record → σ × Except Problem Unit
  /-- The record in a sheet's slot, if any. -/
  load : σ → String → Except Problem (Option Record)
  /-- The sheet's slot is filled. -/
  has : σ → String → Bool
  /-- Empty the sheet's slot: the store afterwards, and how it went. -/
  delete : σ → String → σ × Except Problem Unit

/-- Texts under keys; a later write to a key replaces the earlier one. -/
structure Store where
  entries : List (String × String) := []
  deriving DecidableEq, Repr, Inhabited

namespace Store

def raw? (s : Store) (key : String) : Option String := (s.entries.find? (·.1 == key)).map (·.2)

def erase (s : Store) (key : String) : Store := ⟨s.entries.filter (·.1 != key)⟩

def insertRaw (s : Store) (key value : String) : Store := ⟨(key, value) :: (s.erase key).entries⟩

def put (s : Store) (r : Record) : Store := s.insertRaw (slotKey r.sheetId) r.toJson

/-- Read the record in a sheet's slot. -/
def get (s : Store) (sheetId : String) : Except Problem (Option Record) :=
  match s.raw? (slotKey sheetId) with
  | none => .ok none
  | some text => (Record.ofJson text).map some

def contains (s : Store) (sheetId : String) : Bool := (s.raw? (slotKey sheetId)).isSome

def remove (s : Store) (sheetId : String) : Store := s.erase (slotKey sheetId)

end Store

instance : Slots Store where
  save s r := (s.put r, .ok ())
  load s id := s.get id
  has s id := s.contains id
  delete s id := (s.remove id, .ok ())

end Novel.Save
