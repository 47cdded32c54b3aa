import ArenaLisp.Options

/-!
# Usage

What the program prints about its options.

## Main definitions

- `usage`: the summary of all options.
- `helpPage`: the summary with an explanation of each option.
- `Misuse.report`: what is printed when the arguments are refused.
-/

namespace ArenaLisp

/-- The name under which the program speaks of itself. -/
def programName : String := "frisp"

/-- The summary of all options. -/
def usage : String :=
  "usage: frisp [-h] [-a SCRIPT_ARGS] [-i] [--test DIR] [--lexical] [--no-eval]\n" ++
  "             [--no-include] [-v]\n" ++
  "             [files ...]\n"

/-- The summary with an explanation of each option. -/
def helpPage : String :=
  usage ++
  "\nfrisp interpreter\n" ++
  "\npositional arguments:\n" ++
  "  files                 files to run, glob patterns allowed (if empty, goes to\n" ++
  "                        command-line mode)\n" ++
  "\noptions:\n" ++
  "  -h, --help            show this help message and exit\n" ++
  "  -a SCRIPT_ARGS, --arg SCRIPT_ARGS\n" ++
  "                        string appended to argv (repeatable)\n" ++
  "  -i, --interactive     go to command-line mode after running files\n" ++
  "  --test DIR            run the *test.lisp files in DIR and exit\n" ++
  "  --lexical             lambdas capture their defining scope\n" ++
  "  --no-eval             disable the eval special form\n" ++
  "  --no-include          disable the include special form\n" ++
  "  -v, --verbose         log evaluation steps\n"

/-- What is printed when the arguments are refused. -/
def Misuse.report (problem : Misuse) : String :=
  usage ++ programName ++ ": error: " ++ problem.message ++ "\n"

end ArenaLisp
