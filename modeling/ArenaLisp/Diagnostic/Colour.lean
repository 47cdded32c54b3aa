/-!
# Emphasis in messages

Messages emphasise what they are about: the offending snippets in bold, the word that opens a
report in bold red, the verdict of a test in bold red or green.  How that is written, and whether it
is at all, is a matter of the terminal and is left to a *painter*.

## Main definitions

- `Painter`: how texts are emphasised.
- `Colour.enabled`: whether the environment asks for colour.
- `Colour.paint`: a text wrapped in the codes for bold type and a colour.
- `Colour.painter`: the painter that writes these codes, or none.
-/

namespace ArenaLisp

/-- The colours that messages use. -/
inductive Colour.Hue where
  | red
  | green
  deriving Repr, DecidableEq

/-- How a text is written in bold type and, if one is given, in a colour. -/
structure Painter where
  paint : Option Colour.Hue → String → String

namespace Colour

/-- Whether a variable is set to a non-empty text. -/
def isSet (environ : List (String × String)) (name : String) : Bool :=
  match environ.lookup name with
  | some value => !value.isEmpty
  | none => false

/-- Colour is written if `FORCE_COLOR` is set and neither `ANSI_COLORS_DISABLED` nor `NO_COLOR`
    is. -/
def enabled (environ : List (String × String)) : Bool :=
  !isSet environ "ANSI_COLORS_DISABLED" && !isSet environ "NO_COLOR" &&
    isSet environ "FORCE_COLOR"

/-- The code that selects a colour. -/
def Hue.code : Hue → String
  | .red => "\x1b[31m"
  | .green => "\x1b[32m"

/-- A text in bold type and, if one is given, in a colour. -/
def paint (on : Bool) (hue : Option Hue) (text : String) : String :=
  if on then "\x1b[1m" ++ (hue.map Hue.code).getD "" ++ text ++ "\x1b[0m" else text

/-- The painter that writes these codes, or leaves every text as it is. -/
def painter (on : Bool) : Painter := ⟨paint on⟩

instance : Coe Bool Painter := ⟨painter⟩

end Colour

end ArenaLisp
