import Novel.Save.Record
import Novel.Json.Scan

/-!
# Reading save records

A record is read from JSON text. The text may hold the record as an object or as an array of
its five fields in order, with blanks around any token.

* In an object, unknown keys are skipped with their values, a key given twice is refused, and
  missing fields are reported in the order of the fields.
* In an array, fewer than five elements is an invalid length, and more is trailing text.
* The instant is a string read as RFC 3339; a string that is no instant is refused at its
  closing quote.
* Nothing but blanks may follow the record.

Every failure says where it happened. A failure of the record's shape (a missing field, a
repeated field, a short array) is placed after the reader has looked for the closing bracket,
and eaten it if it was there.
-/

namespace Novel.Save

open Novel.Json Novel.Time

/-- A reader of one value: from the rest of the input to the value and the rest after it. -/
abbrev Reads (α : Type) := List Char → Except ReadError (α × List Char)

/-- The failure for a value of the wrong kind that starts `cs`. The value is read far enough to
name it, and the failure is placed after what was read. -/
def wrongKind (expected : String) (cs : List Char) : ReadError :=
  let placed (f : Found) (rest : List Char) : ReadError := .here (.invalidType f expected) rest
  let named (r : Except ReadError (Found × List Char)) : ReadError :=
    match r with
    | .ok (f, rest) => placed f rest
    | .error e => e
  match cs with
  | 'n' :: rest => named ((readWord ['u', 'l', 'l'] rest).map (fun r => (.null, r)))
  | 't' :: rest => named ((readWord ['r', 'u', 'e'] rest).map (fun r => (.bool true, r)))
  | 'f' :: rest => named ((readWord ['a', 'l', 's', 'e'] rest).map (fun r => (.bool false, r)))
  | '-' :: rest => named ((readNumber false rest).map (fun (n, r) => (n.found, r)))
  | '"' :: rest => named ((readString [] rest).map (fun (s, r) => (.str s, r)))
  | '[' :: _ => placed .seq cs
  | '{' :: _ => placed .map cs
  | c :: rest =>
    if c.isDigit then named ((readNumber true (c :: rest)).map (fun (n, r) => (n.found, r)))
    else .next .expectedValue cs
  | [] => .next .expectedValue []

/-- Read a string. -/
def readText : Reads String := fun cs =>
  match skipBlank cs with
  | [] => .error (.next .eofValue [])
  | '"' :: rest => readString [] rest
  | other => .error (wrongKind "a string" other)

/-- Read an instant, written as an RFC 3339 string. -/
def readTime : Reads Instant := fun cs =>
  match skipBlank cs with
  | [] => .error (.next .eofValue [])
  | '"' :: rest => do
    let (s, after) ← readString [] rest
    match readInstant s with
    | .ok t => pure (t, after)
    | .error e => throw (.here (.custom e.message) after)
  | other => .error (wrongKind "an RFC 3339 formatted date and time string" other)

/-- The next element of an array, or `none` before its closing bracket. -/
def nextElement {α : Type} (first : Bool) (reads : Reads α) (cs : List Char) :
    Except ReadError (Option α × List Char) :=
  let read (r : List Char) := (reads r).map (fun (a, rest) => (some a, rest))
  let cs := skipBlank cs
  match cs with
  | ']' :: _ => .ok (none, cs)
  | ',' :: rest =>
    if first then read cs
    else
      let r := skipBlank rest
      match r with
      | ']' :: _ => .error (.next .trailingComma r)
      | [] => .error (.next .eofValue [])
      | _ => read r
  | [] => .error (.next .eofList [])
  | _ => if first then read cs else .error (.next .expectedListCommaOrEnd cs)

/-- Where reading stands after looking for the end of an array. -/
def listCloseStop (cs : List Char) : List Char :=
  match skipBlank cs with
  | ']' :: rest => rest
  | ',' :: rest => skipBlank rest
  | other => other

/-- The end of an array. -/
def closeList (cs : List Char) : Except ReadError (List Char) :=
  match skipBlank cs with
  | ']' :: rest => .ok rest
  | ',' :: rest =>
    match skipBlank rest with
    | ']' :: r => .error (.next .trailingComma (']' :: r))
    | other => .error (.next .trailingCharacters other)
  | [] => .error (.next .eofList [])
  | other => .error (.next .trailingCharacters other)

/-- The strings of an array, after its opening bracket and up to its closing one. Each string
takes at least two characters, so the length of the input bounds the rounds. -/
def listItems : Nat → Bool → List String → List Char → Except ReadError (List String × List Char)
  | 0, _, acc, cs => .ok (acc.reverse, cs)
  | fuel + 1, first, acc, cs => do
    let (s, rest) ← nextElement first readText cs
    match s with
    | none => pure (acc.reverse, rest)
    | some s => listItems fuel false (s :: acc) rest

/-- Read an array of strings. -/
def readTextList : Reads (List String) := fun cs =>
  match skipBlank cs with
  | [] => .error (.next .eofValue [])
  | '[' :: rest => do
    let (xs, after) ← listItems (rest.length + 1) true [] rest
    let after ← closeList after
    pure (xs, after)
  | other => .error (wrongKind "a sequence" other)

/-- How reading the fields of a record stopped: with a value, or with a fault of the record's
shape, still to be placed; and the rest of the input there. -/
abbrev Stop (α : Type) := Except Fault α × List Char

/-- The fields of the array form, after the opening bracket. -/
def recordItems (cs : List Char) : Except ReadError (Stop Record) := do
  let short (n : Nat) (rest : List Char) : Stop Record :=
    (.error (.invalidLength n "struct SaveData with 5 elements"), rest)
  let (sheetId, cs) ← nextElement true readText cs
  let some sheetId := sheetId | return short 0 cs
  let (current, cs) ← nextElement false readText cs
  let some current := current | return short 1 cs
  let (flags, cs) ← nextElement false readTextList cs
  let some flags := flags | return short 2 cs
  let (history, cs) ← nextElement false readTextList cs
  let some history := history | return short 3 cs
  let (savedAt, cs) ← nextElement false readTime cs
  let some savedAt := savedAt | return short 4 cs
  return (.ok ⟨sheetId, current, flags, history, savedAt⟩, cs)

/-- The fields of a record read so far from the object form. -/
structure Draft where
  sheetId : Option String := none
  currentNodeId : Option String := none
  flags : Option (List String) := none
  history : Option (List String) := none
  savedAt : Option Instant := none
  deriving Inhabited

/-- The record of a finished draft, or the first field missing, in the order of the fields. -/
def Draft.finish (d : Draft) : Except Fault Record := do
  let some sheetId := d.sheetId | throw (.missingField "sheetId")
  let some current := d.currentNodeId | throw (.missingField "currentNodeId")
  let some flags := d.flags | throw (.missingField "flags")
  let some history := d.history | throw (.missingField "history")
  let some savedAt := d.savedAt | throw (.missingField "savedAt")
  return ⟨sheetId, current, flags, history, savedAt⟩

/-- The next key of an object, or `none` before its closing brace. -/
def nextKey (first : Bool) (cs : List Char) : Except ReadError (Option String × List Char) :=
  let key (r : List Char) : Except ReadError (Option String × List Char) :=
    match r with
    | '"' :: rest => (readString [] rest).map (fun (k, after) => (some k, after))
    | '\x7d' :: _ => .error (.next .trailingComma r)
    | [] => .error (.next .eofValue [])
    | _ => .error (.next .keyMustBeString r)
  let cs := skipBlank cs
  match cs with
  | '\x7d' :: _ => .ok (none, cs)
  | ',' :: rest => if first then key cs else key (skipBlank rest)
  | [] => .error (.next .eofObject [])
  | _ => if first then key cs else .error (.next .expectedObjectCommaOrEnd cs)

/-- The colon after a key. -/
def colon (cs : List Char) : Except ReadError (List Char) :=
  match skipBlank cs with
  | ':' :: rest => .ok rest
  | [] => .error (.next .eofObject [])
  | other => .error (.next .expectedColon other)

/-- Read the value of a field that may be given once. -/
def fieldValue {α : Type} (name : String) (seen : Bool) (reads : Reads α) (cs : List Char) :
    Except ReadError (Except Fault α × List Char) := do
  if seen then return (.error (.duplicateField name), cs)
  let cs ← colon cs
  let (a, cs) ← reads cs
  return (.ok a, cs)

/-- The members of the object form, after the opening brace. Each member takes at least three
characters, so the length of the input bounds the rounds. -/
def recordFields : Nat → Bool → Draft → List Char → Except ReadError (Stop Draft)
  | 0, _, d, cs => .ok (.ok d, cs)
  | fuel + 1, first, d, cs => do
    let (k, cs) ← nextKey first cs
    match k with
    | none => return (.ok d, cs)
    | some "sheetId" =>
      let (v, cs) ← fieldValue "sheetId" d.sheetId.isSome readText cs
      match v with
      | .ok v => recordFields fuel false { d with sheetId := some v } cs
      | .error f => return (.error f, cs)
    | some "currentNodeId" =>
      let (v, cs) ← fieldValue "currentNodeId" d.currentNodeId.isSome readText cs
      match v with
      | .ok v => recordFields fuel false { d with currentNodeId := some v } cs
      | .error f => return (.error f, cs)
    | some "flags" =>
      let (v, cs) ← fieldValue "flags" d.flags.isSome readTextList cs
      match v with
      | .ok v => recordFields fuel false { d with flags := some v } cs
      | .error f => return (.error f, cs)
    | some "history" =>
      let (v, cs) ← fieldValue "history" d.history.isSome readTextList cs
      match v with
      | .ok v => recordFields fuel false { d with history := some v } cs
      | .error f => return (.error f, cs)
    | some "savedAt" =>
      let (v, cs) ← fieldValue "savedAt" d.savedAt.isSome readTime cs
      match v with
      | .ok v => recordFields fuel false { d with savedAt := some v } cs
      | .error f => return (.error f, cs)
    | some _ =>
      let cs ← colon cs
      let cs ← skipValue cs
      recordFields fuel false d cs

/-- Where reading stands after looking for the end of an object. -/
def objectCloseStop (cs : List Char) : List Char :=
  match skipBlank cs with
  | '\x7d' :: rest => rest
  | other => other

/-- The end of an object. -/
def closeObject (cs : List Char) : Except ReadError (List Char) :=
  match skipBlank cs with
  | '\x7d' :: rest => .ok rest
  | ',' :: rest => .error (.next .trailingComma (',' :: rest))
  | [] => .error (.next .eofObject [])
  | other => .error (.next .trailingCharacters other)

/-- Read a record, as an object or as an array. -/
def readRecord : Reads Record := fun cs =>
  match skipBlank cs with
  | [] => .error (.next .eofValue [])
  | '[' :: rest => do
    match ← recordItems rest with
    | (.ok r, after) =>
      let after ← closeList after
      pure (r, after)
    | (.error f, after) => throw (.here f (listCloseStop after))
  | '{' :: rest => do
    let (d, after) ← recordFields (rest.length + 1) true {} rest
    match d.bind Draft.finish with
    | .ok r =>
      let after ← closeObject after
      pure (r, after)
    | .error f => throw (.here f (objectCloseStop after))
  | other => .error (wrongKind "struct SaveData" other)

namespace Record

/-- Read a record from its text; nothing but blanks may follow it. -/
def ofJson (text : String) : Except Problem Record :=
  let cs := text.toList
  match readRecord cs with
  | .error e => .error (.json (e.message cs))
  | .ok (r, rest) =>
    match skipBlank rest with
    | [] => .ok r
    | other => .error (.json ((ReadError.next .trailingCharacters other).message cs))

/-- Read a record that must belong to the sheet `expected`. -/
def importFor (text expected : String) : Except Problem Record := do
  let r ← ofJson text
  if r.sheetId != expected then throw (.sheetMismatch expected r.sheetId)
  return r

end Record

end Novel.Save
