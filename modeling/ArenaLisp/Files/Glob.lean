import ArenaLisp.Files
import ArenaLisp.Text.Sorted

/-!
# Patterns for paths

A pattern names several paths at once.  In one component `*` stands for any run of characters, `?`
for one character and brackets for one of a set.  Names that start with a dot are only matched by a
pattern that starts with one.

## Main definitions

- `Glob.Item`: the pieces of a pattern for one name, read by `Glob.items`.
- `Glob.accepts`: whether a name matches.
- **`FileTree.glob`**: the paths that a pattern names.
- `FileTree.expand`: the paths of several patterns.
-/

namespace ArenaLisp

namespace Glob

/-! ## One name -/

/-- One piece of a pattern for a name.  A set is a list of closed ranges. -/
inductive Item where
  | run
  | anyChar
  | char (c : Char)
  | oneOf (isNegated : Bool) (ranges : List (Char × Char))
  deriving Repr, DecidableEq

/-- The characters of a set up to its closing bracket, and what follows; a bracket that comes first
    belongs to the set. -/
def setContents (pattern : List Char) : Option (List Char × List Char) :=
  let (front, rest) := match pattern with
    | '!' :: ']' :: rest => (['!', ']'], rest)
    | '!' :: rest => (['!'], rest)
    | ']' :: rest => ([']'], rest)
    | rest => ([], rest)
  match rest.dropWhile (· ≠ ']') with
  | _ :: after => some (front ++ rest.takeWhile (· ≠ ']'), after)
  | [] => none

/-- The contents of a set cut at the hyphens that make ranges.  A hyphen makes none directly behind
    the end of another range, which is what the count says; `word` is the chunk in progress, its
    last character first. -/
def chunksFrom : Nat → List Char → List Char → List (List Char)
  | _, word, [] => [word.reverse]
  | 0, word, '-' :: rest => word.reverse :: chunksFrom 2 [] rest
  | passed, word, c :: rest => chunksFrom (passed - 1) (c :: word) rest

/-- A chunk in front of others.  A range between the two that runs backwards is empty and goes away
    with both of its ends. -/
def attach (chunk : List Char) : List (List Char) → List (List Char)
  | [] => [chunk]
  | next :: rest =>
    match chunk.getLast?, next with
    | some low, high :: others =>
      if high < low then (chunk.dropLast ++ others) :: rest else chunk :: next :: rest
    | _, _ => (chunk ++ ['-']) :: rest

/-- The contents of a set, each hyphen that makes a range as `none`. -/
def members (contents : List Char) : List (Option Char) :=
  let passed := if contents.head? = some '!' then 2 else 1
  let chunks := (chunksFrom passed [] contents).foldr attach []
  List.intercalate [none] (chunks.map fun chunk => chunk.map some)

/-- The ranges of a set: a hyphen makes one of its two neighbours, any other character stands for
    itself. -/
def ranges : List (Option Char) → List (Char × Char)
  | some low :: none :: some high :: rest => (low, high) :: ranges rest
  | some c :: rest => (c, c) :: ranges rest
  | none :: rest => ('-', '-') :: ranges rest
  | [] => []

/-- The set with given contents: `!` in front of what is left of them negates it. -/
def setItem (contents : List Char) : Item :=
  match members contents with
  | some '!' :: rest => .oneOf true (ranges rest)
  | rest => .oneOf false (ranges rest)

/-- The pieces of a pattern of at most `fuel` characters.  A bracket that is never closed stands for
    itself. -/
def itemsFrom : Nat → List Char → List Item
  | 0, _ => []
  | _, [] => []
  | fuel + 1, '*' :: rest => .run :: itemsFrom fuel rest
  | fuel + 1, '?' :: rest => .anyChar :: itemsFrom fuel rest
  | fuel + 1, '[' :: rest =>
    match setContents rest with
    | some (contents, after) => setItem contents :: itemsFrom fuel after
    | none => .char '[' :: itemsFrom fuel rest
  | fuel + 1, c :: rest => .char c :: itemsFrom fuel rest

/-- The pieces of a pattern for a name. -/
def items (pattern : List Char) : List Item := itemsFrom pattern.length pattern

/-- Whether a piece stands for a character. -/
def Item.holds : Item → Char → Bool
  | .run, _ => true
  | .anyChar, _ => true
  | .char c, d => decide (c = d)
  | .oneOf isNegated ranges, c =>
    ranges.any (fun (low, high) => decide (low ≤ c) && decide (c ≤ high)) != isNegated

/-- The endings of a text, the whole text first. -/
def endings : List Char → List (List Char)
  | [] => [[]]
  | c :: rest => (c :: rest) :: endings rest

/-- What may be left of a text behind one more piece, given what may be left in front of it: endings
    of one text, the longest first. -/
def Item.advance (left : List (List Char)) : Item → List (List Char)
  | .run =>
    match left with
    | [] => []
    | longest :: _ => endings longest
  | item =>
    left.filterMap fun
      | [] => none
      | c :: rest => if item.holds c then some rest else none

/-- Whether pieces stand for a whole text. -/
def matchItems (items : List Item) (text : List Char) : Bool :=
  (items.foldl Item.advance [text]).any List.isEmpty

/-- Whether a name starts with a dot. -/
def isHidden (name : List Char) : Bool := name.head? = some '.'

/-- Whether a name matches a pattern. -/
def accepts (pattern name : List Char) : Bool :=
  (isHidden pattern || !isHidden name) && matchItems (items pattern) name

/-! ## Paths -/

/-- Whether a pattern names more than itself. -/
def hasMagic (pattern : List Char) : Bool :=
  pattern.any fun c => c = '*' || c = '?' || c = '['

/-- A path cut behind its last slash, without the slashes in between unless there is nothing else
    in front of them. -/
def splitPath (path : List Char) : List Char × List Char :=
  let name := (path.reverse.takeWhile (· ≠ '/')).reverse
  let front := path.take (path.length - name.length)
  let trimmed := (front.reverse.dropWhile (· = '/')).reverse
  (if trimmed.isEmpty then front else trimmed, name)

/-- Whether a null character stands in the directory whose names the first magic component of a
    pattern is compared with.  Such a directory cannot be listed. -/
def listsNull (pattern : List Char) : Bool :=
  let front := pattern.takeWhile fun c => !hasMagic [c]
  decide (front.length < pattern.length) && (splitPath front).1.contains (Char.ofNat 0)

/-- The path of a name in a directory. -/
def join (directory name : List Char) : List Char :=
  if directory.isEmpty || directory.getLast? = some '/' then directory ++ name
  else directory ++ '/' :: name

/-- The path of a name in a directory, as texts. -/
def joinPath (directory name : String) : String :=
  String.ofList (join directory.toList name.toList)

end Glob

namespace FileTree

open Glob

/-- The names in a directory; the empty path is the directory at hand.  What is no directory has
    none. -/
def namesIn (tree : FileTree) (directory : List Char) (directoriesOnly : Bool) :
    List (List Char) :=
  let path := if directory.isEmpty then "." else String.ofList directory
  match tree.list path with
  | .error _ => []
  | .ok names =>
    (names.filter fun name =>
      !directoriesOnly || tree.isDirectory (path ++ "/" ++ name)).map String.toList

/-- The names in a directory that the last component of a pattern stands for.  An empty component
    stands for the directory itself. -/
def matchesIn (tree : FileTree) (directory component : List Char) (directoriesOnly : Bool) :
    List (List Char) :=
  if hasMagic component then
    (tree.namesIn directory directoriesOnly).filter (accepts component)
  else if component.isEmpty then
    if tree.isDirectory (String.ofList directory) then [component] else []
  else if tree.contains (String.ofList (join directory component)) then [component]
  else []

/-- The paths that a pattern of at most `fuel` components names. -/
def globWithin (tree : FileTree) : Nat → List Char → Bool → List (List Char)
  | 0, _, _ => []
  | fuel + 1, pattern, directoriesOnly =>
    let (directory, component) := splitPath pattern
    if !hasMagic pattern then
      let found :=
        if component.isEmpty then tree.isDirectory (String.ofList directory)
        else tree.contains (String.ofList pattern)
      if found then [pattern] else []
    else if directory.isEmpty then
      (tree.namesIn [] directoriesOnly).filter (accepts component)
    else
      let directories :=
        if hasMagic directory then globWithin tree fuel directory true else [directory]
      directories.flatMap fun directory =>
        (tree.matchesIn directory component directoriesOnly).map (join directory)

/-- **The paths that a pattern names.** -/
def glob (tree : FileTree) (pattern : String) : List String :=
  (tree.globWithin (pattern.length + 1) pattern.toList false).map String.ofList

/-- The paths of several patterns, those of each one sorted.  A pattern that names nothing is kept
    as it is.  There are none if a directory cannot be listed for a null character in its path. -/
def expand (tree : FileTree) (patterns : List String) : Option (List String) :=
  if patterns.any fun pattern => listsNull pattern.toList then none
  else
    some <| patterns.flatMap fun pattern =>
      match Text.sorted (tree.glob pattern) with
      | [] => [pattern]
      | paths => paths

end FileTree

end ArenaLisp
