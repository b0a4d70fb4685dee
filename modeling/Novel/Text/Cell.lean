/-!
# Cell text: blanks, case and tags

## Blank characters and trimming

Spreadsheet cells, metadata labels and command lines are compared after trimming. Trimming
removes the characters that Unicode gives the property `White_Space`: the ASCII controls from
tab to carriage return, space, next line, no-break space, ogham space mark, the spaces from
en quad to hair space, the line and paragraph separators, the narrow no-break space, the
medium mathematical space and the ideographic space. The byte-order mark U+FEFF is not one of
them, so a cell that starts with it keeps it.

Everything here works on `List Char`; `String` versions sit at the end.
-/

namespace Novel.Text

/-- A character is blank when Unicode lists it as `White_Space` (25 code points). -/
def isBlank (c : Char) : Bool :=
  let n := c.toNat
  (0x09 ≤ n && n ≤ 0x0D) || n == 0x20 || n == 0x85 || n == 0xA0 || n == 0x1680 ||
  (0x2000 ≤ n && n ≤ 0x200A) || n == 0x2028 || n == 0x2029 || n == 0x202F ||
  n == 0x205F || n == 0x3000

def trimStart (cs : List Char) : List Char := cs.dropWhile isBlank

def trimEnd (cs : List Char) : List Char := (cs.reverse.dropWhile isBlank).reverse

def trim (cs : List Char) : List Char := trimEnd (trimStart cs)

def allBlank (cs : List Char) : Bool := cs.all isBlank

def trimString (s : String) : String := String.ofList (trim s.toList)

def isBlankString (s : String) : Bool := allBlank s.toList

example : isBlank ' ' = true := by decide

example : isBlank '\uFEFF' = false := by decide

example : trimStart [] = [] := rfl

example : trim [] = [] := rfl

example : allBlank [] = true := rfl

/-!
## Matching words regardless of case

Cell values such as `Fade`, `LEFT` or ` Checkpoint ` are recognised by trimming them,
lowering their case and comparing with a lowercase ASCII word. Among all Unicode characters,
the ones whose lowercase form is a single ASCII letter are the ASCII letters themselves and
the Kelvin sign U+212A, which lowers to `k`. Every other character lowers to something that is
not ASCII (or to more than one character), so it can never match. `lower` therefore maps the
ASCII capitals and the Kelvin sign and leaves everything else alone: the comparison with an
ASCII word comes out as full Unicode lowering would make it.
-/

/-- Lower a character as far as a comparison with a lowercase ASCII word can tell. -/
def lower (c : Char) : Char :=
  if c.toNat == 0x212A then 'k' else c.toLower

/-- `cs`, trimmed and lowered, is the lowercase ASCII word `word`. -/
def isWord (cs : List Char) (word : String) : Bool :=
  (trim cs).map lower == word.toList

/-- Two texts are equal up to the case of their ASCII letters. -/
def equalsIgnoringAsciiCase (a b : List Char) : Bool :=
  a.map Char.toLower == b.map Char.toLower

example : lower '\u212A' = 'k' := by decide

example : isWord " Fade ".toList "fade" = true := by decide

/-!
## Removing markup tags

Spreadsheet exports sometimes carry rich text as HTML. `stripTags` deletes every span from a
`<` up to the first `>` after it, both included, and keeps everything else; a `<` with no `>`
after it is kept together with the rest of the text. The result is trimmed.
-/

/-- What follows the first `>`; `none` when there is no `>`. -/
def afterClose : List Char → Option (List Char)
  | [] => none
  | c :: rest => if c == '>' then some rest else afterClose rest

/-- What follows the first `>` is shorter than the text. -/
theorem length_afterClose : ∀ {cs after : List Char}, afterClose cs = some after →
    after.length < cs.length
  | [], _, h => by simp [afterClose] at h
  | c :: rest, after, h => by
    unfold afterClose at h
    split at h
    · cases h; simp
    · have := length_afterClose h; simp; omega

/-- Delete the tags of a text, reading left to right. -/
def dropTags : List Char → List Char
  | [] => []
  | c :: rest =>
    if c == '<' then
      match _hc : afterClose rest with
      | some after => dropTags after
      | none => c :: rest
    else c :: dropTags rest
termination_by cs => cs.length
decreasing_by
  · have := length_afterClose _hc; simp; omega
  · simp

def stripTags (s : String) : String := String.ofList (trim (dropTags s.toList))

end Novel.Text
