import ArenaLisp.Shell.Utility.Characters
import ArenaLisp.Shell.Utility.Condition
import ArenaLisp.Shell.Utility.Editor
import ArenaLisp.Shell.Utility.Expression
import ArenaLisp.Shell.Utility.Lines
import ArenaLisp.Shell.Utility.Order
import ArenaLisp.Shell.Utility.Places
import ArenaLisp.Shell.Utility.Print
import ArenaLisp.Shell.Utility.Search

/-!
# All utilities

The utilities by name.

## Main definitions

- `utility?`: what a utility does, if there is one with the name.
- `perform`: a utility run on the state of a shell.
-/

namespace ArenaLisp.Shell

/-- How many lines are written by a utility that would write without end. -/
def endlessLines : Nat := 10000

/-- The values of variables that are handed on. -/
def Request.printenv (r : Request) : Effect :=
  match r.args with
  | [] => .output (unlines (r.environ.map fun (name, value) => name ++ '=' :: value))
  | names =>
    let values := names.map fun name => r.environ.lookup name
    { Effect.output (unlines (values.filterMap id)) with
      status := if values.all Option.isSome then 0 else 1 }

/-- What the utility with a name does. -/
def utility? (r : Request) : Option Effect :=
  match String.ofList r.name with
  | "true" | "sleep" | "sync" => some {}
  | "false" => some { status := 1 }
  | "echo" => some (.output (echo r.args))
  | "printf" => some r.printf
  | "test" | "[" => some r.test
  | "expr" => some r.expr
  | "cat" => some r.cat
  | "head" => some r.head
  | "tail" => some r.tail
  | "tac" => some r.tac
  | "rev" => some r.rev
  | "nl" => some r.nl
  | "wc" => some r.wc
  | "paste" => some r.paste
  | "fold" => some r.fold
  | "seq" => some r.seq
  | "sort" => some r.sort
  | "uniq" => some r.uniq
  | "comm" => some r.comm
  | "cut" => some r.cut
  | "tr" => some r.tr
  | "grep" => some r.grep
  | "egrep" => some { r with args := ['-', 'E'] :: r.args }.grep
  | "fgrep" => some { r with args := ['-', 'F'] :: r.args }.grep
  | "sed" => some r.sed
  | "ls" => some r.ls
  | "find" => some r.find
  | "mkdir" => some r.mkdir
  | "rmdir" => some r.rmdir
  | "touch" => some r.touch
  | "rm" => some r.rm
  | "cp" => some r.cp
  | "mv" => some r.mv
  | "tee" => some r.tee
  | "basename" => some r.basename
  | "dirname" => some r.dirname
  | "printenv" => some r.printenv
  | "yes" =>
    let text := if r.args.isEmpty then ['y'] else List.intercalate [' '] r.args
    some (.output (List.replicate endlessLines (text ++ ['\n'])).flatten)
  | _ => none

/-- What a command is given in the state of a shell. -/
def Machine.request (m : Machine) (name : Octets) (args : List Octets) : Request :=
  let source := m.source 0
  { shellTitle := m.title, name, args
    input := source.content, inputIsFile := source.isFile, files := m.files
    here := m.here, environ := m.environ }

/-- An effect on the state of a shell. -/
def perform (effect : Effect) : Act Unit := do
  if effect.usesInput then modify (·.leave 0 [])
  match effect.files with
  | some files => modify fun m => { m with files }
  | none => pure ()
  effect.chunks.forM fun (isError, text) => write (if isError then 2 else 1) text
  setStatus effect.status

end ArenaLisp.Shell
