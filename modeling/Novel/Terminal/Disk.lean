/-!
# A disk of files and folders

The terminal program reads its story, metadata and configuration from files and keeps saves in
a folder. This module models the part of a file system those operations see:

* a **path** is the text the user gave; the system reads it as names divided by `/`, where
  empty names and `.` stand for the folder they are in, `..` for the folder above, and a text
  that ends in `/` or `/.` names a folder; a path whose last name is `.` stands for the folder
  its other names reach, so that folder must exist already, even to be made;
* a **disk** maps places (lists of names from the working folder, without `.` or `..` inside)
  to entries, each a file with its text or a folder; the working folder itself is always
  there, and so are the folders above it, whose places are runs of `..`; the root of the file
  system is the folder named `/` when the disk holds it, and is its own parent;
* every operation follows the path name by name, as the system does: `..` goes to the folder
  above the one reached so far, and every other name before the last must be a folder, or the
  operation fails with *not found* or *not a directory*. So `new/../saves` reaches `saves`
  only while a folder `new` exists;
* a name longer than 255 bytes fails with *file name too long* when the walk looks it up, and
  a path of 4096 bytes or more fails so before the walk begins;
* outside the working folder, every machine has the root `/`, the folders at the root that
  every Linux system has, and the empty device file `/dev/null` (`Disk.system`).

The operations are those of the program: reading a file, asking whether a path exists, making
a folder with all folders above it, writing a file and removing one. Their failures carry the
system's error numbers and texts.
-/

namespace Novel.Terminal

/-- Why the system refused a file operation. -/
inductive OsError where
  /-- A name on the way does not exist. -/
  | notFound
  /-- The path to be made exists already. -/
  | alreadyExists
  /-- A file was expected and the path is a folder. -/
  | isDirectory
  /-- A name on the way is a file. -/
  | notDirectory
  /-- A name is longer than 255 bytes, or the whole path is 4096 bytes or longer. -/
  | nameTooLong
  deriving DecidableEq, Repr, Inhabited

/-- What the system says, with its error number. -/
def OsError.message : OsError → String
  | .notFound => "No such file or directory (os error 2)"
  | .alreadyExists => "File exists (os error 17)"
  | .isDirectory => "Is a directory (os error 21)"
  | .notDirectory => "Not a directory (os error 20)"
  | .nameTooLong => "File name too long (os error 36)"

/-- A path as the user wrote it. -/
structure Path where
  text : String
  deriving DecidableEq, Repr, Inhabited

namespace Path

/-- The pieces of a text between slashes, in order; there is one more piece than slashes. -/
def pieces : List Char → List (List Char)
  | [] => [[]]
  | c :: cs =>
    match pieces cs with
    | [] => [[c]]
    | p :: ps => if c == '/' then [] :: p :: ps else (c :: p) :: ps

/-- A piece that stands for the folder it is in: an empty one or `.`. -/
def isHere (piece : List Char) : Bool := piece.isEmpty || piece == ['.']

/-- The last name of the path, empty names aside, is `.`. -/
def endsInHere (p : Path) : Bool :=
  ((pieces p.text.toList).reverse.dropWhile List.isEmpty).head? == some ['.']

/-- The names of the path, in order; empty names and `.` are dropped, except a `.` that is the
last name, which stays to say that the path stands for the folder before it. A path that
starts with `/` starts at the root of the file system, which the disk holds under the name
`/`. -/
def names (p : Path) : List String :=
  let inner := ((pieces p.text.toList).filter (!isHere ·)).map String.ofList
  let named := if p.text.toList.head? == some '/' then "/" :: inner else inner
  if p.endsInHere then named ++ ["."] else named

/-- The names of the folder above the path, as made folder by folder: its names without the
last one, a final `.` not counting as a name. -/
def parentNames (p : Path) : List String :=
  (p.names.filter (· != ".")).dropLast

/-- The path ends in `/` or `/.`, so it can only name a folder. -/
def namesFolder (p : Path) : Bool :=
  let ps := pieces p.text.toList
  ps.length > 1 && (ps.getLast?.map isHere).getD false

/-- The path of `name` inside the folder `p`: the two texts joined by one `/`, or `name`
alone when `p` is empty. -/
def join (p : Path) (name : String) : Path :=
  if p.text.isEmpty then ⟨name⟩
  else if p.text.endsWith "/" then ⟨p.text ++ name⟩
  else ⟨p.text ++ "/" ++ name⟩

end Path

/-- What a path holds. -/
inductive Entry where
  /-- A file with its text. -/
  | file (text : String)
  /-- A folder. -/
  | folder
  deriving DecidableEq, Repr, Inhabited

/-- Files and folders by their names from the working folder. -/
structure Disk where
  entries : List (List String × Entry) := []
  deriving DecidableEq, Repr, Inhabited

namespace Disk

/-- The entry at a place; the working folder and the folders above it are always there. -/
def entry? (d : Disk) (names : List String) : Option Entry :=
  if names.all (· == "..") then some .folder
  else (d.entries.find? (·.1 == names)).map (·.2)

/-- Put an entry at a list of names, replacing what was there. -/
def set (d : Disk) (names : List String) (e : Entry) : Disk :=
  ⟨(names, e) :: d.entries.filter (·.1 != names)⟩

def erase (d : Disk) (names : List String) : Disk :=
  ⟨d.entries.filter (·.1 != names)⟩

/-- The place of the folder above a folder: the root is its own parent, and above the working
folder and its ancestors lies one more `..`. -/
def up (here : List String) : List String :=
  match here.getLast? with
  | none => [".."]
  | some ".." => here ++ [".."]
  | some "/" => here
  | some _ => here.dropLast

def nameLimit : Nat := 255

/-- The length, in bytes, at which the system refuses a whole path. -/
def pathLimit : Nat := 4096

/-- Follow `names` from the folder at `here`: `..` goes up, every other name but the last must
be a folder, and every name looked up must fit the name limit. The place at the end, with its
entry if there is one. -/
def resolve (d : Disk) (here : List String) :
    List String → Except OsError (List String × Option Entry)
  | [] => .ok (here, d.entry? here)
  | [".."] => .ok (up here, d.entry? (up here))
  | ["."] => .ok (here, d.entry? here)
  | [n] =>
    if n.utf8ByteSize > nameLimit then .error .nameTooLong
    else .ok (here ++ [n], d.entry? (here ++ [n]))
  | ".." :: rest => d.resolve (up here) rest
  | "." :: rest => d.resolve here rest
  | n :: rest =>
    if n.utf8ByteSize > nameLimit then .error .nameTooLong
    else match d.entry? (here ++ [n]) with
      | none => .error .notFound
      | some (.file _) => .error .notDirectory
      | some .folder => d.resolve (here ++ [n]) rest

/-- Follow a path from the working folder; a path too long as a whole fails first. -/
def find (d : Disk) (p : Path) : Except OsError (List String × Option Entry) :=
  if p.text.utf8ByteSize ≥ pathLimit then .error .nameTooLong else d.resolve [] p.names

/-- Where a path leads and what is there. The empty path leads nowhere, and a path written as a
folder's cannot name a file. -/
def locate (d : Disk) (p : Path) : Except OsError (List String × Option Entry) :=
  if p.text.isEmpty then .error .notFound
  else match d.find p with
    | .ok (place, some (.file text)) =>
      if p.namesFolder then .error .notDirectory else .ok (place, some (.file text))
    | r => r

/-- What a path names: an error on the way, nothing, or an entry. -/
def stat (d : Disk) (p : Path) : Except OsError (Option Entry) :=
  if p.text.isEmpty then .ok none
  else (d.locate p).map (·.2)

/-- The text of a file. -/
def read (d : Disk) (p : Path) : Except OsError String :=
  match d.stat p with
  | .error e => .error e
  | .ok none => .error .notFound
  | .ok (some .folder) => .error .isDirectory
  | .ok (some (.file text)) => .ok text

/-- The path names a file or a folder. -/
def contains (d : Disk) (p : Path) : Bool :=
  match d.stat p with
  | .ok (some _) => true
  | _ => false

/-- The path names a folder. -/
def isFolder (d : Disk) (p : Path) : Bool :=
  match d.stat p with
  | .ok (some .folder) => true
  | _ => false

/-- Make one folder; the folders above it must exist. -/
def makeFolder (d : Disk) (p : Path) : Except OsError Disk :=
  if p.text.isEmpty then .error .notFound
  else match d.find p with
    | .error e => .error e
    | .ok (_, some _) => .error .alreadyExists
    | .ok (place, none) => .ok (d.set place .folder)

/-- Make a folder and every missing folder above it, given the names of the folder from the
innermost out; the folder above is the path without its last name, `..` included. A folder
that exists already is no error; a file in the way is. The outcome comes with the disk as it
is afterwards: folders made before a failure stay made. -/
def makeFoldersFrom (d : Disk) : List String → Except OsError Unit × Disk
  | [] => (.ok (), d)
  | n :: up =>
    let p : Path := ⟨"/".intercalate (n :: up).reverse⟩
    match d.makeFolder p with
    | .ok made => (.ok (), made)
    | .error .notFound =>
      match d.makeFoldersFrom up with
      | (.error e, above) => (.error e, above)
      | (.ok (), above) =>
        match above.makeFolder p with
        | .ok made => (.ok (), made)
        | .error e => (if above.isFolder p then .ok () else .error e, above)
    | .error e => (if d.isFolder p then .ok () else .error e, d)

/-- Make a folder and every missing folder above it: make the folder; when something above it
is missing, make the folders above it from its parent's names, and then the folder again. A
path whose last name is `.` is never made by this, since the folder it stands for is the one
that must exist. The empty path is made already. Folders made before a failure stay made. -/
def makeFolders (d : Disk) (p : Path) : Except OsError Unit × Disk :=
  if p.text.isEmpty then (.ok (), d)
  else match d.makeFolder p with
    | .ok made => (.ok (), made)
    | .error .notFound =>
      match d.makeFoldersFrom p.parentNames.reverse with
      | (.error e, above) => (.error e, above)
      | (.ok (), above) =>
        match above.makeFolder p with
        | .ok made => (.ok (), made)
        | .error e => (if above.isFolder p then .ok () else .error e, above)
    | .error e => (if d.isFolder p then .ok () else .error e, d)

/-- Write a file, making it or replacing its text; the folder it is in must exist. -/
def write (d : Disk) (p : Path) (text : String) : Except OsError Disk :=
  if p.text.isEmpty then .error .notFound
  else if p.namesFolder then .error .isDirectory
  else match d.find p with
    | .error e => .error e
    | .ok (_, some .folder) => .error .isDirectory
    | .ok (place, _) => .ok (d.set place (.file text))

/-- Remove a file. -/
def removeFile (d : Disk) (p : Path) : Except OsError Disk :=
  match d.locate p with
  | .error e => .error e
  | .ok (_, none) => .error .notFound
  | .ok (_, some .folder) => .error .isDirectory
  | .ok (place, some (.file _)) => .ok (d.erase place)

/-- The entries directly inside the folder `names`, sorted by name. -/
def children (d : Disk) (names : List String) : List (String × Entry) :=
  let inside := d.entries.filterMap fun (path, e) =>
    match path with
    | [] => none
    | _ => if path.dropLast == names then path.getLast?.map (·, e) else none
  inside.mergeSort fun a b => decide (a.1 ≤ b.1)

/-- The paths whose entries differ between two disks, with the entry each has in `after`
(none where it was removed); shorter paths first, so that folders come before what they hold. -/
def changes (before after : Disk) : List (List String × Option Entry) :=
  let paths := (after.entries.map (·.1) ++ before.entries.map (·.1)).eraseDups
  let differ := paths.filterMap fun p =>
    let e := after.entry? p
    if e == before.entry? p then none else some (p, e)
  differ.mergeSort fun a b => decide (a.1.length ≤ b.1.length)

def systemFolders : List String := ["bin", "dev", "etc", "home", "proc", "root", "tmp", "usr", "var"]

/-- The part of every machine's file tree that paths from outside the working folder reach:
the root `/`, the folders at the root that every system has, and the device file
`/dev/null`, which reads as empty. -/
def system : Disk :=
  ⟨(["/"], .folder) :: systemFolders.map (fun n => (["/", n], .folder)) ++
    [(["/", "dev", "null"], .file "")]⟩

/-- The places a path passes through, one for each of its names, read without the disk: `..`
goes up and every other name goes into a folder of that name. -/
def placesFrom (here : List String) : List String → List (List String)
  | [] => []
  | ".." :: rest => up here :: placesFrom (up here) rest
  | "." :: rest => placesFrom here rest
  | n :: rest => (here ++ [n]) :: placesFrom (here ++ [n]) rest

end Disk

example :
    ({ entries := [(["new"], .folder)] } : Disk).resolve [] ["new", "..", "saves"] =
      .ok (["saves"], none) := by
  rfl

example : ({} : Disk).resolve [] ["new", "..", "saves"] = .error .notFound := by
  rfl

example :
    (({} : Disk).makeFolders ⟨"saves/."⟩).1 = .error .notFound := by
  rfl

example : Disk.system.read ⟨"/"⟩ = .error .isDirectory := by
  rfl

example : Disk.system.read ⟨"/dev/null"⟩ = .ok "" := by
  rfl

example : (Path.mk "./saves//a.json").names = ["saves", "a.json"] := by
  decide

end Novel.Terminal
