import Novel.Play.Progress
import Novel.Time.Rfc3339
import Novel.Json.Print

/-!
# Save records

A save record holds the sheet it belongs to, the player's progress and the instant it was taken.
Its flags travel as a list: a record taken from progress lists them in increasing order without
repeats, and a record read from text keeps whatever list it was given, which becomes a set again
when the progress is restored.

Its text is a JSON object, indented by two spaces, with the fields `sheetId`, `currentNodeId`,
`flags`, `history` and `savedAt` in that order; the instant is written in RFC 3339, in UTC.
-/

namespace Novel.Save

open Novel.Play Novel.Time Novel.Json

/-- Why a save cannot be used. -/
inductive Problem where
  /-- The text is not a save record; the message says why and where. -/
  | json (message : String)
  /-- The record belongs to another sheet. -/
  | sheetMismatch (expected found : String)
  /-- The store failed. -/
  | store (message : String)
  /-- The record's node is not in the story. -/
  | unknownNode (id : String)
  deriving DecidableEq, Repr, Inhabited

/-- What the problem says to a reader. -/
def Problem.message : Problem → String
  | .json m => "save JSON error: " ++ m
  | .sheetMismatch e f =>
    "save file is for a different game (expected '" ++ e ++ "', found '" ++ f ++ "')"
  | .store m => "save store error: " ++ m
  | .unknownNode id => "saved node '" ++ id ++ "' does not exist in this story"

/-- A saved game. -/
structure Record where
  sheetId : String
  currentNodeId : String
  flags : List String
  history : List String
  savedAt : Instant
  deriving DecidableEq, Repr, Inhabited

namespace Record

/-- The record of a progress, taken at an instant; the flags are listed in increasing order. -/
def capture (sheetId : String) (p : Progress) (savedAt : Instant) : Record :=
  { sheetId := sheetId, currentNodeId := p.current, flags := flagSet p.flags,
    history := p.history, savedAt := savedAt }

def toProgress (r : Record) : Progress := Progress.ofParts r.currentNodeId r.flags r.history

/-- The record as a JSON object, fields in their fixed order. -/
def toValue (r : Record) : Value :=
  .obj [("sheetId", .str r.sheetId), ("currentNodeId", .str r.currentNodeId),
        ("flags", Value.strs r.flags), ("history", Value.strs r.history),
        ("savedAt", .str r.savedAt.rfc3339)]

def toJson (r : Record) : String := r.toValue.renderPretty

end Record

end Novel.Save
