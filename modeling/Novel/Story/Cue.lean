import Novel.Text.Cell

/-!
# Media cues

An image or music cell tells the stage what to do with its layer. A cell that is absent or
blank keeps what is shown; `clear` or `none` removes it; `stop` stops it (for music); anything
else, trimmed, names an asset.

Short asset names are resolved against the configured base address. A full `http://` or
`https://` address and the three sentinel words are taken as they are, as is any name when no
base is set.
-/

namespace Novel.Story

/-- What a media cell asks for. -/
inductive Cue where
  | keep
  | clear
  | stop
  | asset (name : String)
  deriving DecidableEq, Repr, Inhabited

namespace Cue

/-- Read a media cell. -/
def ofCell : Option String → Cue
  | none => .keep
  | some cell =>
    let v := Text.trimString cell
    if v == "" then .keep
    else if v == "clear" || v == "none" then .clear
    else if v == "stop" then .stop
    else .asset v

/-- The address of an asset: resolved against `base` unless it is already a full address. -/
def resolve (base : Option String) (value : String) : String :=
  if value == "clear" || value == "none" || value == "stop" then value
  else if value.startsWith "http://" || value.startsWith "https://" then value
  else
    match base with
    | some b =>
      if b.isEmpty then value
      else if b.endsWith "/" then b ++ value
      else b ++ "/" ++ value
    | none => value

end Cue

example : Cue.ofCell (some "  ") = .keep := by decide

end Novel.Story
