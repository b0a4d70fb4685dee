import Novel.Ron.Value

/-!
# Reading RON: whole documents

A document is blanks and comments, then any number of attribute lines
`#![enable(name, …)]` that switch extensions on, then one value, then nothing but blanks and
comments. Blanks and comments may stand between the marks of an attribute line. Its opening
marks `#`, `!`, `[`, `enable`, `(` are each looked for in turn, also after one is missing, and
only then is a missing one reported, where reading stands; so are its closing marks `)`, `]`. Of the extensions only `implicit_some` changes how this library reads: a value
stands for `Some(value)` where an option is expected. `unwrap_newtypes` and
`unwrap_variant_newtypes` are accepted and have nothing to act on.
-/

namespace Novel.Ron

/-- The extension a name switches on, and whether it is `implicit_some`. -/
def extensionIsImplicitSome? : String → Option Bool
  | "implicit_some" => some true
  | "unwrap_newtypes" => some false
  | "unwrap_variant_newtypes" => some false
  | _ => none

/-- The names of one attribute line's list, after `enable(`. Each round takes a name, so the
length of the text bounds the rounds. -/
def extensionNames : Nat → Parse Unit
  | 0 => pure ()
  | fuel + 1 => do
    let name ← identifier
    match extensionIsImplicitSome? name with
    | none => fail (.noSuchExtension name)
    | some true => modify fun c => { c with implicitSome := true }
    | some false => pure ()
    let more ← comma
    let c ← get
    let identNext := (c.rest.head?.map isIdentOther).getD false
    if !more && identNext then fail .expectedComma
    if more && identNext then extensionNames fuel

/-- Take each text in turn where it is found, skipping blanks and comments after each one
taken. Every text is tried, also after one is missing or skipping failed; the first failure of
skipping is the outcome, and otherwise whether every text was found. -/
def consumeAll : List String → Parse (Except Fault Bool)
  | [] => pure (.ok true)
  | t :: ts => do
    let here ← attempt do
      if ← consume t then
        skipWs
        return true
      return false
    let later ← consumeAll ts
    return do
      let found ← here
      let rest ← later
      pure (rest && found)

example : consumeAll [] = pure (.ok true) := rfl

/-- One attribute line, if one starts here; tell whether one did. -/
def enableLine : Parse Bool := do
  if (← peek?) != some '#' then return false
  match ← consumeAll ["#", "!", "[", "enable", "("] with
  | .error f => fail f
  | .ok false => fail .expectedAttribute
  | .ok true => pure ()
  skipWs
  extensionNames ((← get).rest.length + 1)
  skipWs
  match ← consumeAll [")", "]"] with
  | .error f => fail f
  | .ok false => fail .expectedAttributeEnd
  | .ok true => return true

/-- Blanks, comments and attribute lines before the value. -/
def preamble : Parse Unit := do
  skipWs
  go ((← get).rest.length + 1)
where
  go : Nat → Parse Unit
    | 0 => pure ()
    | fuel + 1 => do
      if ← enableLine then
        skipWs
        go fuel

/-- Read a whole document with `value`. -/
def readDocument {α : Type} (value : Parse α) (text : String) : Except Error α :=
  let whole : Parse α := do
    preamble
    let v ← value
    skipWs
    if !(← get).rest.isEmpty then fail .trailingCharacters
    return v
  match whole.runFrom { rest := text.toList } with
  | (.ok v, _) => .ok v
  | (.error f, c) => .error ⟨f, c.line, c.col⟩

end Novel.Ron
