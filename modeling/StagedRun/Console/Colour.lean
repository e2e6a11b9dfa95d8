import StagedRun.Command

/-!
# Colours

Whether the console understands attributes is a `Colour`, which is read from the environment once.
A `Style` is one attribute, and `Colour.apply` puts styles around a text: every sequence that
switches an attribute on is followed, at the end of the text, by the one that switches all of them
off.
-/

namespace StagedRun

/-- One attribute of text on a console. -/
inductive Style where
  | green
  | yellow
  | red
  | bold
  deriving DecidableEq, Repr

/-- The character that starts a sequence. -/
def escapeCharacter : Char := '\x1b'

/-- The sequence with a number. -/
def sequenceOf (number : String) : String :=
  String.ofList [escapeCharacter, '['] ++ number ++ "m"

/-- The sequence that switches an attribute on. -/
def Style.code : Style → String
  | .green => sequenceOf "92"
  | .yellow => sequenceOf "93"
  | .red => sequenceOf "91"
  | .bold => sequenceOf "1"

/-- The sequence that switches every attribute off. -/
def resetCode : String := sequenceOf "0"

/-- Whether attributes are shown. -/
inductive Colour where
  | ansi
  | plain
  deriving DecidableEq, Repr

namespace Colour

/-- The variable that switches attributes off. -/
def noColourVariable : String := "NO_COLOR"

/-- The variable that names the kind of terminal. -/
def terminalVariable : String := "TERM"

/-- Attributes are not shown when `NO_COLOR` can be read, whatever it says, nor on a terminal that
is called dumb. -/
def resolve (read : String → Option String) : Colour :=
  if (read noColourVariable).isSome || read terminalVariable == some "dumb" then .plain else .ansi

/-- The colour that an environment asks for.  Variables are read as text, so one that is no text
counts as not set. -/
def ofEnvironment (environment : Environment) : Colour :=
  resolve fun name => (environment name).bind Text.decode?

/-- A text with styles around it. -/
def apply (colour : Colour) (styles : List Style) (text : String) : String :=
  match colour, styles with
  | .plain, _ | .ansi, [] => text
  | .ansi, _ :: _ => String.join (styles.map Style.code) ++ text ++ resetCode

@[simp] theorem apply_plain (styles : List Style) (text : String) :
    Colour.plain.apply styles text = text := by
  cases styles <;> rfl

@[simp] theorem apply_nil (colour : Colour) (text : String) : colour.apply [] text = text := by
  cases colour <;> rfl

end Colour

end StagedRun
