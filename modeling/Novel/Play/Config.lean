import Novel.Play.Prompt
import Novel.Ron.Document
import Novel.Text.Cell

/-!
# The player's configuration

The configuration gives the length of each half of a fade and of the black hold between them,
in milliseconds; the prefix for short asset names; the sheet id that names the story in save
records; the label of the Continue button; and what to do with choices that have no label.

It is written in RON as a struct named `PlayerConfig`, whose name may be left out. Every field
may be left out and takes its default then; unknown fields are skipped; a field given twice is
refused.

A configuration is valid when the fade is longer than zero, the hold is shorter than the fade
and the sheet id is not blank.
-/

namespace Novel.Play

/-- The player's configuration. -/
structure Config where
  fadeMs : Nat := 600
  holdMs : Nat := 50
  assetBase : Option String := none
  sheetId : String := "local"
  continueLabel : String := "Continue"
  unlabeled : Policy := .blankLabel
  deriving DecidableEq, Repr, Inhabited

/-- Why a configuration cannot be used. -/
inductive ConfigProblem where
  /-- The file could not be read. -/
  | io (message : String)
  /-- The text is not a configuration. -/
  | ron (e : Ron.Error)
  /-- The configuration breaks a rule. -/
  | invalid (message : String)
  deriving DecidableEq, Repr, Inhabited

/-- What the problem says to a reader. -/
def ConfigProblem.message : ConfigProblem → String
  | .io m => "IO error: " ++ m
  | .ron e => "RON deserialization error: " ++ e.message
  | .invalid m => "invalid player config: " ++ m

namespace Config

/-- Check the rules, in order: a fade longer than zero, a hold shorter than the fade, a sheet id
that is not blank. -/
def validate (c : Config) : Except ConfigProblem Config :=
  if c.fadeMs == 0 then .error (.invalid "fade_duration_ms must be greater than zero")
  else if c.holdMs ≥ c.fadeMs then
    .error (.invalid ("fade_hold_ms (" ++ toString c.holdMs ++ ") must be shorter than fade_duration_ms (" ++
      toString c.fadeMs ++ ")"))
  else if Text.isBlankString c.sheetId then .error (.invalid "sheet_id must not be empty")
  else .ok c

def structName : String := "PlayerConfig"

def policyNames : List String := ["BlankLabel", "AutoAdvance"]

open Ron in
/-- Read an option of a string: `None`, `Some(…)`, or with `implicit_some` a bare string. The
option takes a nesting guard while its string is read. -/
def optionalString (budget : Nat) : Parse (Option String) := do
  if ← consume "None" then return none
  if ← consume "Some" then
    skipWs
    if ← consume "(" then
      skipWs
      let s ← nest budget fun _ _ => string
      let _ ← comma
      if !(← consume ")") then fail .expectedOptionEnd
      return some s
  if (← get).implicitSome then
    return some (← nest budget fun _ _ => string)
  fail .expectedOption

open Ron in
/-- Read the policy for unlabeled choices; its name takes a nesting guard. -/
def policy (budget : Nat) : Parse Policy := do
  skipWs
  nest budget fun _ _ => do
    match ← identifier with
    | "BlankLabel" => pure .blankLabel
    | "AutoAdvance" => pure .autoAdvance
    | other => fail (.noSuchVariant policyNames other "UnlabeledChoicePolicy")

/-- The fields given so far. -/
structure Given where
  fade : Bool := false
  hold : Bool := false
  asset : Bool := false
  sheet : Bool := false
  label : Bool := false
  unlabeled : Bool := false

open Ron in
/-- Read one field into the configuration; `budget` is the nesting guards left for its value,
whose own guard is taken. -/
def field (budget : Nat) (st : Config × Given) : Parse (Config × Given) := do
  let (c, g) := st
  match ← identifier with
  | "fade_duration_ms" =>
    if g.fade then fail (.duplicateField "fade_duration_ms" structName)
    colon
    let v ← unsignedInteger (Nat.pow 2 64 - 1)
    return ({ c with fadeMs := v }, { g with fade := true })
  | "fade_hold_ms" =>
    if g.hold then fail (.duplicateField "fade_hold_ms" structName)
    colon
    let v ← unsignedInteger (Nat.pow 2 64 - 1)
    return ({ c with holdMs := v }, { g with hold := true })
  | "asset_base_url" =>
    if g.asset then fail (.duplicateField "asset_base_url" structName)
    colon
    let v ← optionalString budget
    return ({ c with assetBase := v }, { g with asset := true })
  | "sheet_id" =>
    if g.sheet then fail (.duplicateField "sheet_id" structName)
    colon
    let v ← string
    return ({ c with sheetId := v }, { g with sheet := true })
  | "continue_label" =>
    if g.label then fail (.duplicateField "continue_label" structName)
    colon
    let v ← string
    return ({ c with continueLabel := v }, { g with label := true })
  | "unlabeled_choices" =>
    if g.unlabeled then fail (.duplicateField "unlabeled_choices" structName)
    colon
    let v ← policy budget
    return ({ c with unlabeled := v }, { g with unlabeled := true })
  | _ =>
    colon
    skipAny budget
    return (c, g)

open Ron in
/-- The fields of the struct, separated by commas, up to its closing bracket, with `budget`
nesting guards left inside the struct. A field's name and its value each take a guard. Each
round takes a field name, so the length of the text bounds the rounds. -/
def fields (budget : Nat) (st : Config × Given) : Parse Config := do
  go ((← get).rest.length + 1) true st
where
  go : Nat → Bool → Config × Given → Parse Config
    | 0, _, st => pure st.1
    | fuel + 1, hadComma, st => do
      skipWs
      let next ← peekOrEof
      if next == ')' then return st.1
      if !hadComma then fail .expectedComma
      let st ← nest budget fun b _ => field b st
      let more ← comma
      go fuel more st

def nestingGuards : Nat := 128

open Ron in
/-- Read the struct: its name, plain or raw, or none; its bracket; its fields. The struct takes
a nesting guard while its fields are read. -/
def parse : Parse Config := do
  if !(← checkIdent "") then
    match ← attempt identifier with
    | .ok n => if n != structName then fail (.expectedDifferentStructName structName n)
    | .error _ => fail (.expectedNamedStructLike structName)
  skipWs
  if !(← consume "(") then fail (.expectedNamedStructLike structName)
  let c ← nest nestingGuards fun b _ => fields b ({}, {})
  let _ ← comma
  if !(← consume ")") then fail .expectedStructLikeEnd
  return c

/-- Read a configuration from RON text, without checking its rules. -/
def ofRonUnchecked (text : String) : Except ConfigProblem Config :=
  (Ron.readDocument parse text).mapError .ron

/-- Read a configuration from RON text and check its rules. -/
def ofRon (text : String) : Except ConfigProblem Config := do
  (← ofRonUnchecked text).validate

end Config

end Novel.Play
