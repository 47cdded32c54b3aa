import ArenaLisp.CommandLine

/-!
# The executable

Reads what the program can see of its surroundings into a world, runs the command line on it and
writes what it printed.  Standard input is read to its end before the program starts, and the files
are those below the current directory.
-/

namespace ArenaLisp

/-- The variables of the environment in the form in which the system hands them over: a `=` behind
    each name, a null character behind each value. -/
def environOf (text : List Char) : List (String × String) :=
  (Text.pieces [Char.ofNat 0] text).filterMap fun entry =>
    match entry.dropWhile (· ≠ '=') with
    | _ :: value => some (String.ofList (entry.takeWhile (· ≠ '=')), String.ofList value)
    | [] => none

/-- Adds everything below a directory to a tree, under a path. -/
partial def snapshot (path : String) (entries : Array IO.FS.DirEntry) (tree : FileTree) :
    IO FileTree :=
  entries.foldlM (fun tree entry => do
    let name := path ++ entry.fileName
    if ← entry.path.isDir then
      snapshot (name ++ "/") (← entry.path.readDir) (tree.add (name ++ "/") [])
    else return tree.add name (← IO.FS.readBinFile entry.path).toList) tree

/-- How many bytes of standard input are handed over at a time. -/
def supplySize : USize := 8192

/-- What the system hands over of a stream, up to its end or to the first refusal. -/
partial def supplies (stream : IO.FS.Stream) : IO (List Supply) := do
  match ← (stream.read supplySize).toBaseIO with
  | .error fault => return [.refusal { message := toString fault }]
  | .ok piece =>
    if piece.isEmpty then return []
    else return .bytes piece.toList :: (← supplies stream)

/-- The world that the program is started in. -/
def startingWorld : IO World := do
  let environ ← IO.FS.readBinFile "/proc/self/environ"
  let handed ← supplies (← IO.getStdin)
  let directory ← IO.currentDir
  let location := directory.components.filter fun name => !name.isEmpty
  let files ← snapshot "" (← directory.readDir) { location := some location }
  return {
    input := { supplies := handed }
    files
    environ := environOf ((String.fromUTF8? environ).getD "").toList }

end ArenaLisp

/-- Runs the program. -/
def main (arguments : List String) : IO UInt32 := do
  let (departure, world) := ArenaLisp.commandLine arguments (← ArenaLisp.startingWorld)
  IO.print world.output
  IO.eprint world.errors
  (← IO.getStderr).write ⟨world.shellErrors.toArray⟩
  match departure with
  | .returned => return 0
  | .exit code => return code.toNat.toUInt32
  | .escaped _ => return 1
