import StagedRun.Path.Basic

/-!
# Options

`Options` are the choices that a command line expresses.  How a command line says them is told by
two kinds of words: a `Switch` turns something on, and a `Setting` takes a value.  Both have a long
name, and all of them but the root have a letter as well.
-/

namespace StagedRun

namespace Options

/-- The name of the program. -/
def programName : String := "graphrun"

/-- The version of the program. -/
def programVersion : String := "0.1.0"

/-- The variable that names the root when no option does. -/
def rootVariable : String := "GRAPHRUN_ROOT"

/-- The name of the file for the graph when no option gives one. -/
def defaultOutput : String := "graph.txt"

end Options

/-- What a command line chooses. -/
structure Options where
  /-- Whether the analyzer is compiled. -/
  build : Bool := true
  /-- The files that the analyzer is given. -/
  inputs : List ByteString := []
  /-- The name of the file that the graph is written to. -/
  output : ByteString := Text.encode Options.defaultOutput
  /-- Whether the run tells what it does. -/
  verbose : Bool := false
  /-- Whether earlier results are removed first. -/
  clean : Bool := false
  /-- The root of the repository, if one is named. -/
  root : Option Path := none
  deriving DecidableEq, Repr

/-! ## Words of a command line -/

/-- A word that turns something on. -/
inductive Switch where
  | noBuild
  | verbose
  | clean
  deriving DecidableEq, Repr

/-- A word that takes a value. -/
inductive Setting where
  | input
  | output
  | root
  deriving DecidableEq, Repr

/-- A word with a meaning. -/
inductive Word where
  | switch (switch : Switch)
  | setting (setting : Setting)
  | help
  | version
  deriving DecidableEq, Repr

namespace Word

/-- All words. -/
def all : List Word := [.switch .noBuild, .setting .input, .setting .output, .switch .verbose,
  .switch .clean, .setting .root, .help, .version]

/-- The long name of a word. -/
def name : Word → String
  | switch .noBuild => "no-build"
  | switch .verbose => "verbose"
  | switch .clean => "clean"
  | setting .input => "input"
  | setting .output => "output"
  | setting .root => "root"
  | help => "help"
  | version => "version"

/-- The letter of a word. -/
def letter? : Word → Option Char
  | switch .noBuild => some 'n'
  | switch .verbose => some 'v'
  | switch .clean => some 'c'
  | setting .input => some 'i'
  | setting .output => some 'o'
  | setting .root => none
  | help => some 'h'
  | version => some 'V'

/-- The word with a long name, which has to be given in full. -/
def ofName? (name : ByteString) : Option Word :=
  all.find? fun word => Text.encode word.name == name

/-- The word with a letter. -/
def ofLetter? (letter : UInt8) : Option Word :=
  all.find? fun word => word.letter?.any (·.toNat == letter.toNat)

end Word

/-- A setting with the name of its value. -/
def Setting.usage : Setting → String
  | .input => "--input <INPUT>..."
  | .output => "--output <OUTPUT>"
  | .root => "--root <DIR>"

/-- A word as messages show it. -/
def Word.usage : Word → String
  | .setting option => option.usage
  | word => "--" ++ word.name

end StagedRun
