import StagedRun.Console.Colour

/-!
# Console records

What a run tells its user is a list of `Record`s.  A record is rendered without a look at where it
goes: `Record.chunks` are the texts that are written for it, each of which is written and flushed on
its own.  A command takes two of them, so that the trace of a command is complete before the
command starts.
-/

namespace StagedRun

/-- How an informational line looks. -/
structure Look where
  /-- Whether the line ends. -/
  newline : Bool := true
  /-- Whether the line is marked as informational. -/
  labelled : Bool := true
  /-- The attributes of the line. -/
  styles : List Style := []
  deriving DecidableEq, Repr

/-- Something to tell the user. -/
inductive Record where
  /-- Information. -/
  | info (message : String) (look : Look)
  /-- The failure that ended a run. -/
  | error (message : String)
  /-- Information, and the command that is about to start. -/
  | command (message line : String)
  deriving DecidableEq, Repr

namespace Record

/-- Information as it usually looks. -/
def note (message : String) : Record :=
  .info message {}

/-- Information with attributes. -/
def styled (message : String) (styles : List Style) : Record :=
  .info message { styles }

/-- What marks a line as informational. -/
def infoLabel : String := "INFO: "

/-- What marks a line as an error. -/
def errorLabel : String := "ERROR: "

/-- What marks a line as a command. -/
def commandLabel : String := ">>"

/-- An informational line. -/
def infoLine (colour : Colour) (message : String) (look : Look) : String :=
  colour.apply look.styles (if look.labelled then infoLabel ++ message else message)
    ++ if look.newline then "\n" else ""

/-- The texts that are written for a record, each on its own. -/
def chunks (colour : Colour) : Record → List String
  | .info message look => [infoLine colour message look]
  | .error message => [colour.apply [.red, .bold] (errorLabel ++ message) ++ "\n"]
  | .command message line =>
    [infoLine colour message {}, commandLabel ++ " " ++ line ++ "\n"]

/-- Everything that is written for a record. -/
def text (colour : Colour) (record : Record) : String :=
  String.join (record.chunks colour)

end Record

end StagedRun
