import StagedRun.Options.Usage

/-!
# Reading a command line

Arguments are read from left to right by `Scan.read`, and the first problem met is the answer.  An
argument is one of four things.  Two dashes and a name are a long word, with or without a value
after an equals sign.  One dash and letters are a cluster of words, where the first letter of a
setting takes the rest of the cluster as its value.  Two dashes alone end the options.  Anything
else, a lone dash included, is a value.

## Values that stand on their own

A setting without a value of its own in the same argument waits for the arguments after it: an input
for any number of them, the others for one.  It is `Scan.pending` meanwhile.  What it waited for is
checked by `Scan.commit`, and only when the next word with a meaning or the end of the command line
is reached.  So an argument that has no meaning is reported before a value that is missing, repeated
or ill-formed, although it stands after it.  Values in the same argument are checked at once.

## The variable

The variable that names the root is looked at by `Options.withFallback`, after the whole command
line was read and only if no option names the root.
-/

namespace StagedRun

/-- What has been read of a command line. -/
structure Scan where
  /-- The switches so far. -/
  switches : List Switch := []
  /-- The input files so far. -/
  inputs : List ByteString := []
  /-- The output file, if given. -/
  output : Option ByteString := none
  /-- The root, if given. -/
  root : Option ByteString := none
  /-- A setting that waits, with the values it has got. -/
  pending : Option (Setting × List ByteString) := none
  /-- Whether the options have ended. -/
  ended : Bool := false
  deriving DecidableEq, Repr

namespace Scan

/-- The byte that starts a word. -/
def dash : UInt8 := 0x2D

/-- The byte between a word and its value. -/
def equalsSign : UInt8 := 0x3D

/-! ## Values -/

/-- Checks that every value is a text. -/
def checkTexts (values : List ByteString) : Except Usage Unit :=
  if values.all Text.isUtf8 then .ok () else .error .notUtf8

/-- Gives a setting its values. -/
def assign (scan : Scan) (setting : Setting) (values : List ByteString) : Except Usage Scan :=
  match setting, values with
  | _, [] => .error (.missingValue setting)
  | .input, _ :: _ => do
    checkTexts values
    return { scan with inputs := scan.inputs ++ values }
  | .output, value :: _ => do
    if scan.output.isSome then .error (.repeated (.setting .output))
    checkTexts [value]
    return { scan with output := some value }
  | .root, value :: _ => do
    if scan.root.isSome then .error (.repeated (.setting .root))
    if value.isEmpty then .error (.missingValue .root)
    return { scan with root := some value }

/-- Gives a setting that waits what it has got. -/
def commit (scan : Scan) : Except Usage Scan :=
  match scan.pending with
  | none => .ok scan
  | some (setting, values) => { scan with pending := none }.assign setting values

/-- Whether a setting that waits takes another value. -/
def takesMore : Setting × List ByteString → Bool
  | (.input, _) => true
  | (.output, values) | (.root, values) => values.isEmpty

/-! ## Words -/

/-- Meets a switch. -/
def turnOn (scan : Scan) (switch : Switch) : Except Usage Scan := do
  let scan ← scan.commit
  if scan.switches.contains switch then .error (.repeated (.switch switch))
  return { scan with switches := scan.switches ++ [switch] }

/-- Meets a setting with a value of its own. -/
def attach (scan : Scan) (setting : Setting) (value : ByteString) : Except Usage Scan := do
  (← scan.commit).assign setting [value]

/-- Meets a setting that has to wait for its values. -/
def await (scan : Scan) (setting : Setting) : Except Usage Scan := do
  return { ← scan.commit with pending := some (setting, []) }

/-- Meets a request for an answer. -/
def request (scan : Scan) (usage : Usage) : Except Usage Scan := do
  discard scan.commit
  .error usage

/-! ## Arguments -/

/-- Meets two dashes, a name, and a value if there is an equals sign. -/
def readLong (scan : Scan) (name : ByteString) (value? : Option ByteString) :
    Except Usage Scan :=
  match Word.ofName? name, value? with
  | none, _ => .error (.unexpectedArgument ("--" ++ Text.lossy name))
  | some (.setting setting), some value => scan.attach setting value
  | some (.setting setting), none => scan.await setting
  | some word, some value => .error (.unexpectedValue (Text.lossy value) word)
  | some (.switch switch), none => scan.turnOn switch
  | some .help, none => scan.request .help
  | some .version, none => scan.request .version

/-- The start of a cluster as a message shows it: its first letter, or all of it where it starts
with no letter. -/
def shownLetter (cluster : ByteString) : String :=
  match Text.pieces cluster with
  | .char c :: _ => String.ofList ['-', c]
  | _ => "-" ++ Text.lossy cluster

/-- Meets the letters after a dash. -/
def readCluster (scan : Scan) : ByteString → Except Usage Scan
  | [] => .ok scan
  | letter :: rest =>
    match Word.ofLetter? letter with
    | none => .error (.unexpectedArgument (shownLetter (letter :: rest)))
    | some (.switch switch) => do (← scan.turnOn switch).readCluster rest
    | some (.setting setting) =>
      match rest with
      | [] => scan.await setting
      | b :: value => scan.attach setting (if b = equalsSign then value else b :: value)
    | some .help => scan.request .help
    | some .version => scan.request .version

/-- Meets a value. -/
def readValue (scan : Scan) (value : ByteString) : Except Usage Scan :=
  match scan.pending with
  | some (setting, values) =>
    if takesMore (setting, values) then
      .ok { scan with pending := some (setting, values ++ [value]) }
    else .error (.unexpectedArgument (Text.lossy value))
  | none => .error (.unexpectedArgument (Text.lossy value))

/-- What stands before the first equals sign, and what stands after it. -/
def splitValue (bytes : ByteString) : ByteString × Option ByteString :=
  match bytes.dropWhile (· != equalsSign) with
  | [] => (bytes, none)
  | _ :: value => (bytes.takeWhile (· != equalsSign), some value)

/-- Meets an argument. -/
def read (scan : Scan) (argument : ByteString) : Except Usage Scan :=
  if scan.ended then .error (.unexpectedArgument (Text.lossy argument))
  else
    match argument with
    | [] => scan.readValue argument
    | first :: rest =>
      if first = dash then
        match rest with
        | [] => scan.readValue argument
        | second :: more =>
          if second = dash then
            if more.isEmpty then .ok { scan with ended := true }
            else scan.readLong (splitValue more).1 (splitValue more).2
          else scan.readCluster rest
      else scan.readValue argument

/-- What a command line chooses that was read to its end. -/
def options (scan : Scan) : Options where
  build := !scan.switches.contains .noBuild
  inputs := scan.inputs
  output := scan.output.getD (Text.encode Options.defaultOutput)
  verbose := scan.switches.contains .verbose
  clean := scan.switches.contains .clean
  root := scan.root.map Path.mk

/-- Meets the end of the command line. -/
def finish (scan : Scan) : Except Usage Options := do
  return (← scan.commit).options

end Scan

namespace Options

/-- What a command line chooses by itself. -/
def ofArguments (arguments : List ByteString) : Except Usage Options := do
  (← arguments.foldlM Scan.read {}).finish

/-- Choices with the root that a variable names, if they name none. -/
def withFallback (options : Options) (root : Option ByteString) : Except Usage Options :=
  match options.root, root with
  | some _, _ | none, none => .ok options
  | none, some [] => .error (.missingValue .root)
  | none, some (b :: rest) => .ok { options with root := some ⟨b :: rest⟩ }

/-- What a command line chooses, where `root` is the value of the variable that names the root. -/
def parse (root : Option ByteString) (arguments : List ByteString) : Except Usage Options := do
  (← ofArguments arguments).withFallback root

end Options

end StagedRun
