import StagedRun.Options.Basic
import StagedRun.Text.Visible

/-!
# Answers to a command line that is not run

A `Usage` is what the program says instead of running: that a command line cannot be read, which
goes to the error output and ends with status two, or what was asked for, which goes to the standard
output and ends with status zero.  Arguments and values that a text repeats are shown without what a
terminal would act upon.
-/

namespace StagedRun

/-- What is said instead of running. -/
inductive Usage where
  /-- An argument has no meaning where it stands. -/
  | unexpectedArgument (shown : String)
  /-- A word that takes no value was given one. -/
  | unexpectedValue (value : String) (word : Word)
  /-- A setting was given no value that it can have. -/
  | missingValue (setting : Setting)
  /-- A word that may stand once stands twice. -/
  | repeated (word : Word)
  /-- A value is no text. -/
  | notUtf8
  /-- Help was asked for. -/
  | help
  /-- The version was asked for. -/
  | version
  deriving DecidableEq, Repr

namespace Usage

/-- What the program is for. -/
def about : String := "Staged clean/build/run driver for the TypeScript graph extractor."

/-- The column at which the help describes an option. -/
def helpColumn : Nat := 26

/-- The end of the note that shows the variable that names the root, up to the name of the option
after it.  That name is set in a style of its own, so a sequence that the value leaves unfinished
reaches up to it and no further. -/
def rootNote (root : Option ByteString) : String :=
  Text.visible (Text.hanging helpColumn (Text.lossy (root.getD [])) ++ "]\n  ")

/-- The text of the help, where `root` is the value of the variable that names the root. -/
def helpText (root : Option ByteString) : String :=
  about ++ "\n\n" ++
  "Usage: " ++ Options.programName ++ " [OPTIONS]\n\n" ++
  "Options:\n" ++
  "  -n, --no-build          Skip build stage\n" ++
  "  -i, --input <INPUT>...  Run the analyzer on the given input files " ++
    "(default: do not run anything)\n" ++
  "  -o, --output <OUTPUT>   Save the graph inside the file named OUTPUT [default: " ++
    Options.defaultOutput ++ "]\n" ++
  "  -v, --verbose           Print logs and output results\n" ++
  "  -c, --clean             Before building, remove build and output directories\n" ++
  "      --root <DIR>        Repository root; defaults to the parent of the executable's " ++
    "directory [env: " ++ Options.rootVariable ++ "=" ++ rootNote root ++
  "-h, --help              Print help\n" ++
  "  -V, --version           Print version\n"

/-- The text of an answer.  Of an answer to a command line that cannot be read it is the line that
says why; the hints that a reader of command lines may print below that line are left out. -/
def message (root : Option ByteString) : Usage → String
  | .unexpectedArgument shown =>
    "error: unexpected argument '" ++ Text.visible shown ++ "' found"
  | .unexpectedValue value word =>
    "error: unexpected value '" ++ Text.visible value ++ "' for '" ++ word.usage
      ++ "' found; no more were expected"
  | .missingValue setting =>
    "error: a value is required for '" ++ setting.usage ++ "' but none was supplied"
  | .repeated word =>
    "error: the argument '" ++ word.usage ++ "' cannot be used multiple times"
  | .notUtf8 => "error: invalid UTF-8 was detected in one or more arguments"
  | .help => helpText root
  | .version => Options.programName ++ " " ++ Options.programVersion ++ "\n"

/-- Whether an answer is what was asked for. -/
def isRequested : Usage → Bool
  | .help | .version => true
  | .unexpectedArgument _ | .unexpectedValue _ _ | .missingValue _ | .repeated _ | .notUtf8 =>
    false

/-- The status that the program ends with. -/
def exitStatus (usage : Usage) : UInt8 :=
  if usage.isRequested then 0 else 2

end Usage

end StagedRun
