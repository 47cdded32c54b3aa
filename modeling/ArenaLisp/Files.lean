import ArenaLisp.Text.Pieces
import ArenaLisp.Text.Utf8

/-!
# The files that scripts see

A directory tree as a value: what a program reads, lists and writes.  Its root is the current
directory, from which relative paths start; absolute paths lead into the tree if it is known where
the current directory is.  Of what lies outside only the directories on the way to the tree are
known, and the device that swallows what is written to it.

## Main definitions

- `FileTree`: places, given by their components, with a file or a directory at each.
- `Place`: where a path can lead.
- `FileFault`: why a path cannot be used, worded by `FileFault.message`.
- `FileTree.resolve`: the place a path leads to.
- `FileTree.read`, `FileTree.readText`, `FileTree.list`: the contents behind a path.
- `FileTree.write`, `FileTree.erase`: the tree with a file replaced or with places removed.
-/

namespace ArenaLisp

/-- What stands at a place of the tree. -/
inductive Entry where
  | file (bytes : List UInt8)
  | directory
  deriving Repr, DecidableEq

/-- A directory tree: the places below its root with what stands there, and the names that lead from
    the root of the file system to the root of the tree, if they are known. -/
structure FileTree where
  entries : List (List String × Entry) := []
  location : Option (List String) := none
  deriving Repr, DecidableEq

/-- Where a path can lead: to a place of the tree, given by its components, to a directory outside
    of the tree, given by the names that lead from there to its root, none if they are not known, or
    to the device that swallows what is written to it. -/
inductive Place where
  | inside (components : List String)
  | outside (way : List String)
  | device
  deriving Repr, DecidableEq

namespace Place

/-- The root of the tree. -/
def root : Place := .inside []

/-- The directory from which some names lead to the root of the tree. -/
def above : List String → Place
  | [] => .root
  | way => .outside way

end Place

/-- Why a path cannot be used.  Faults of the tree name the path as it was given. -/
inductive FileFault where
  | missing (path : String)
  | notDirectory (path : String)
  | isDirectory (path : String)
  | nameTooLong (path : String)
  | malformed (place : Text.Utf8.Malformed)
  deriving Repr, DecidableEq

/-- The wording of a fault: the number under which the system knows it, its name and the path. -/
def FileFault.message : FileFault → String
  | .missing path => "[Errno 2] No such file or directory: " ++ Text.quoted path
  | .notDirectory path => "[Errno 20] Not a directory: " ++ Text.quoted path
  | .isDirectory path => "[Errno 21] Is a directory: " ++ Text.quoted path
  | .nameTooLong path => "[Errno 36] File name too long: " ++ Text.quoted path
  | .malformed place => place.message

namespace FileTree

/-- The components of a path, empty ones included. -/
def components (path : String) : List String :=
  (Text.pieces ['/'] path.toList).map String.ofList

/-- What stands at a place; the root is a directory. -/
def find (tree : FileTree) (place : List String) : Option Entry :=
  if place.isEmpty then some .directory else tree.entries.lookup place

/-- What stands where a path can lead: outside of the tree there are directories, and the device
    reads as an empty file. -/
def entryAt (tree : FileTree) : Place → Option Entry
  | .inside place => tree.find place
  | .outside _ => some .directory
  | .device => some (.file [])

/-- The longest name of one component, in bytes. -/
def nameLimit : Nat := 255

/-- The longest path, in bytes. -/
def pathLimit : Nat := 4095

/-- The root of the file system. -/
def top (tree : FileTree) : Place :=
  match tree.location with
  | some names => .above names
  | none => .outside []

/-- The place above a place.  Nothing is above the root of the file system. -/
def parent (tree : FileTree) : Place → Place
  | .inside (name :: rest) => .inside (name :: rest).dropLast
  | .inside [] => climb []
  | .outside way => climb way
  | .device => .outside []
where
  /-- The directory from which one name more leads to the root of the tree. -/
  climb (way : List String) : Place :=
    match tree.location with
    | some names => .above (names.drop (names.length - (way.length + 1)))
    | none => .outside []

/-- The place of a name directly below another place, if something stands there. -/
def below (tree : FileTree) (here : Place) (name : String) : Option Place :=
  match here with
  | .inside place =>
    if (tree.find (place ++ [name])).isSome then some (.inside (place ++ [name])) else none
  | .outside (next :: way) => if name = next then some (.above way) else none
  | _ => none

/-- Follows components from a place.  Each step starts at a directory; an empty component and `.`
    stay there, `..` goes back, and a name must stand below it. -/
def walk (tree : FileTree) (path : String) (here : Place) :
    List String → Except FileFault Place
  | [] => .ok here
  | name :: rest =>
    match tree.entryAt here with
    | some (.file _) => .error (.notDirectory path)
    | _ =>
      if name.isEmpty ∨ name = "." then walk tree path here rest
      else if name = ".." then walk tree path (tree.parent here) rest
      else if nameLimit < name.utf8ByteSize then .error (.nameTooLong path)
      else
        match tree.below here name with
        | some place => walk tree path place rest
        | none => .error (.missing path)

/-- The place that a path starts from. -/
def start (tree : FileTree) (path : String) : Place :=
  if path.toList.head? = some '/' then tree.top else .root

/-- Where a path leads that does not lead into the tree nor to a directory on the way to it: of all
    names only that of the device is known. -/
def elsewhere (path : String) (fault : FileFault) : Except FileFault Place :=
  if path.toList.head? ≠ some '/' then .error fault
  else
    match (components path).filter fun name => !name.isEmpty with
    | ["dev"] => .ok (.outside [])
    | ["dev", "null"] => .ok .device
    | _ => .error fault

/-- The place a path leads to. -/
def resolve (tree : FileTree) (path : String) : Except FileFault Place :=
  if path.isEmpty then .error (.missing path)
  else if pathLimit < path.utf8ByteSize then .error (.nameTooLong path)
  else
    match tree.walk path (tree.start path) (components path) with
    | .ok place => .ok place
    | .error fault => elsewhere path fault

/-- What a path leads to. -/
def entry (tree : FileTree) (path : String) : Except FileFault Entry :=
  match tree.resolve path with
  | .error fault => .error fault
  | .ok place =>
    match tree.entryAt place with
    | some entry => .ok entry
    | none => .error (.missing path)

/-- Whether a path leads anywhere. -/
def contains (tree : FileTree) (path : String) : Bool :=
  match tree.entry path with
  | .ok _ => true
  | .error _ => false

/-- Whether a path leads to a directory. -/
def isDirectory (tree : FileTree) (path : String) : Bool :=
  match tree.entry path with
  | .ok .directory => true
  | _ => false

/-- The bytes of the file a path leads to. -/
def read (tree : FileTree) (path : String) : Except FileFault (List UInt8) :=
  match tree.entry path with
  | .ok (.file bytes) => .ok bytes
  | .ok .directory => .error (.isDirectory path)
  | .error fault => .error fault

/-- The text of the file a path leads to: strict UTF-8, with each line end a line feed. -/
def readText (tree : FileTree) (path : String) : Except FileFault (List Char) :=
  match tree.read path with
  | .error fault => .error fault
  | .ok bytes =>
    match Text.Utf8.decode bytes with
    | .ok text => .ok (Text.unifyNewlines text)
    | .error place => .error (.malformed place)

/-- The names directly below a place. -/
def namesBelow (tree : FileTree) : Place → List String
  | .inside place =>
    tree.entries.filterMap fun (other, _) =>
      if other.dropLast = place then other.getLast? else none
  | _ => []

/-- The names in the directory a path leads to. -/
def list (tree : FileTree) (path : String) : Except FileFault (List String) :=
  match tree.resolve path with
  | .error fault => .error fault
  | .ok place =>
    match tree.entryAt place with
    | some .directory => .ok (tree.namesBelow place)
    | _ => .error (.notDirectory path)

/-- The tree with something else at a place; what is new goes to the end. -/
def set (tree : FileTree) (place : List String) (entry : Entry) : FileTree :=
  if (tree.entries.lookup place).isSome then
    { tree with
      entries := tree.entries.map fun (other, old) => (other, if other = place then entry else old) }
  else { tree with entries := tree.entries ++ [(place, entry)] }

/-- The tree with directories at a place and at all places above it. -/
def addDirectories (tree : FileTree) (place : List String) : FileTree :=
  (List.range place.length).foldl
    (fun tree n =>
      let above := place.take (n + 1)
      if (tree.find above).isSome then tree else tree.set above .directory)
    tree

/-- The tree with a file, or with a directory if the path ends in `/`, and all directories above
    it. -/
def add (tree : FileTree) (path : String) (bytes : List UInt8) : FileTree :=
  let parts := components path
  let place := parts.filter fun name => !name.isEmpty && decide (name ≠ ".")
  if parts.getLast? = some "" then tree.addDirectories place
  else (tree.addDirectories place.dropLast).set place (.file bytes)

/-- The place at which a path that leads nowhere yet would make something: a name in a directory
    of the tree. -/
def vacancy (tree : FileTree) (path : String) : Except FileFault (List String) :=
  let parts := components path
  match tree.resolve path, parts.getLast?, tree.walk path (tree.start path) parts.dropLast with
  | .error (.missing _), some name, .ok (.inside above) =>
    if name.isEmpty then .error (.missing path)
    else if tree.find above = some .directory then .ok (above ++ [name])
    else .error (.notDirectory path)
  | .error fault, _, _ => .error fault
  | .ok _, _, _ => .error (.missing path)

/-- The tree with the file that a path leads to replaced or made.  The directory above it must
    exist. -/
def write (tree : FileTree) (path : String) (bytes : List UInt8) : Except FileFault FileTree :=
  match tree.resolve path with
  | .ok .device => .ok tree
  | .ok (.outside _) => .error (.isDirectory path)
  | .ok (.inside place) =>
    if tree.find place = some .directory then .error (.isDirectory path)
    else .ok (tree.set place (.file bytes))
  | .error _ => (tree.vacancy path).map fun place => tree.set place (.file bytes)

/-- The tree without what stands at a place and below it. -/
def erase (tree : FileTree) (place : List String) : FileTree :=
  { tree with entries := tree.entries.filter fun (other, _) => !place.isPrefixOf other }

end FileTree

end ArenaLisp
