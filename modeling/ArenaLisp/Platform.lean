import ArenaLisp.Diagnostic.Colour
import ArenaLisp.Files
import ArenaLisp.Input
import ArenaLisp.Shell.Execution

/-!
# The platform

What the program relies on and does not contain: the shell that runs command lines, the painter of
messages, and the stack of the host.  Nothing is assumed of them, so that what is true of the
program is true on every platform.

## Main definitions

- `CompletedProcess`: what a command line leaves behind.
- `Stack`: how much the stack of the host takes.
- `Platform`: all of them.
- `Platform.emulated`: a shell with the usual utilities, run on the files of the program itself.
-/

namespace ArenaLisp

/-- What a command line that has been run leaves behind: what it wrote to its two output streams,
    the files, and how many bytes it took from the standard input that it shares with the
    program. -/
structure CompletedProcess where
  output : List UInt8
  errors : List UInt8 := []
  files : FileTree
  taken : Nat := 0

/-- How much the stack of the host takes: how many evaluations can be nested, how often one call can
    be forwarded from one reference to the next, and how many further evaluations there must be room
    for so that a step can be traced. -/
structure Stack where
  depth : Nat := 1000
  forwards : Nat := 1000
  trace : Nat := 1
  deriving Repr, DecidableEq

/-- What the program relies on.  The shell sees the files, the variables of the environment, what is
    left of the standard input and the command line, and may not be able to start it.  The painter
    may depend on the variables of the environment. -/
structure Platform where
  shell : FileTree → List (String × String) → List Supply → String →
    Except HostFault CompletedProcess
  painter : List (String × String) → Painter
  stack : Stack := {}

/-- A shell with the usual utilities that works on the files at hand and starts every command line,
    with an empty input; its messages are dropped.  Colour is written if the environment asks for
    it. -/
def Platform.emulated : Platform where
  shell files environ _ command :=
    let (output, files) := Shell.run files environ command
    .ok { output, files }
  painter environ := Colour.painter (Colour.enabled environ)

end ArenaLisp
