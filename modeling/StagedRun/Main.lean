import StagedRun.Program

/-!
# The command line

`main` runs the program on the system.  It only passes on what the system says: which step follows
is decided by `Program.main`.

Arguments and variables need not be text, so `arguments` and `environment` read them as the bytes that
the process was started with.  On a system that does not show these bytes they are read as text.

One thing is narrower here than in `Host`.  This host starts no children: it answers every command
with the error of a system without processes.
-/

namespace StagedRun.Main

/-- An error as the system numbers it. -/
def reasonOf : IO.Error → SystemError
  | .alreadyExists _ code _ | .otherError code _ | .resourceBusy code _ | .resourceVanished code _
  | .unsupportedOperation code _ | .hardwareFault code _ | .unsatisfiedConstraints code _
  | .illegalOperation code _ | .protocolError code _ | .timeExpired code _
  | .interrupted _ code _ | .noFileOrDirectory _ code _ | .invalidArgument _ code _
  | .permissionDenied _ code _ | .resourceExhausted _ code _ | .inappropriateType _ code _
  | .noSuchThing _ code _ => .numbered code.toNat
  | .unexpectedEof => .bare .unexpectedEof
  | .userError text => .custom .other text

/-- What an action answers, with its error as a value. -/
def answered {α : Type} (action : IO α) : IO (Except SystemError α) := do
  try return .ok (← action)
  catch error => return .error (reasonOf error)

/-- Whether a path leads to a directory. -/
def isDirectory (path : Path) : IO Bool := do
  ((← IO.currentDir) / path.display).isDir

/-- Removes a directory with everything in it, and follows no link. -/
partial def removeDirectory (text : String) : IO Unit := do
  let directory := (← IO.currentDir) / text
  for entry in ← directory.readDir do
    match (← entry.path.symlinkMetadata).type with
    | .dir => removeDirectory (text ++ "/" ++ entry.fileName)
    | .file | .symlink | .other => IO.FS.removeFile entry.path
  IO.FS.removeDir directory

/-- Removes what a path names, and follows no link. -/
def removeTree (path : Path) : IO Unit := do
  let named := (← IO.currentDir) / path.display
  match (← named.symlinkMetadata).type with
  | .symlink => IO.FS.removeFile named
  | .dir | .file | .other => removeDirectory path.display

/-- Writes to the standard output, whether it takes the bytes or not. -/
def emit (bytes : ByteString) : IO Unit := do
  let output ← IO.getStdout
  try output.write ⟨bytes.toArray⟩ catch _ => pure ()
  try output.flush catch _ => pure ()

/-- The surroundings of a program on the system.  `listening` tells whether notes are shown and
`stage` in which stage they are taken. -/
def machine (listening : IO.Ref Bool) (stage : IO.Ref (Option Stage)) : Machine IO :=
  let note (diagnostic : Diagnostic) : IO Unit := do
    if ← listening.get then IO.eprintln (diagnostic.line (← stage.get))
  let start (_ : Command) : IO (Except SystemError Nat) := return .error (.bare .unsupported)
  let wait (_ : Nat) : IO (Except SystemError Exit) := return .error (.bare .unsupported)
  { isDirectory
    removeTree := fun path => answered (removeTree path)
    makeDirectories := fun path => answered (IO.FS.createDirAll path.display)
    run := supervise note start wait
    emit
    note
    enter := fun entered => stage.set (some entered)
    leave := stage.set none
    executable := answered do
      return .ofString (← IO.FS.realPath (← IO.appPath)).toString
    currentDirectory := answered do
      return .ofString (← IO.currentDir).toString
    answer := fun requested text =>
      if requested then emit (Text.encode text) else IO.eprintln text
    listen := listening.set }

/-! ## What the process was started with -/

/-- The strings in bytes in which a zero byte ends each of them. -/
def strings (bytes : ByteString) : List ByteString :=
  bytes.foldr (fun byte following =>
    if byte = 0 then [] :: following
    else
      match following with
      | [] => [[byte]]
      | string :: more => (byte :: string) :: more) []

/-- What the system tells about the process in the file with this name. -/
def told (name : String) : IO (List ByteString) :=
  return strings (← IO.FS.readBinFile ("/proc/self/" ++ name)).toList

/-- The arguments, of which `texts` are the replacements that are text. -/
def arguments (texts : List String) : IO (List ByteString) := do
  try
    let all ← told "cmdline"
    return all.drop (all.length - texts.length)
  catch _ => return texts.map Text.encode

/-- The variables that a run looks at. -/
def variableNames : List String :=
  [Options.rootVariable, Programs.compilerVariable, Programs.runtimeVariable,
    Colour.noColourVariable, Colour.terminalVariable]

/-- The value of a variable in the string for it, its name and its value with a sign between them. -/
def valueIn (name : String) (string : ByteString) : Option ByteString :=
  let front := Text.encode (name ++ "=")
  if front.isPrefixOf string then some (string.drop front.length) else none

/-- The variables that are set. -/
def environment : IO Environment := do
  try
    let entries ← told "environ"
    return fun name => entries.findSome? (valueIn name)
  catch _ =>
    let values ← variableNames.mapM fun name => return (name, ← IO.getEnv name)
    return fun name => ((values.lookup name).join).map Text.encode

end StagedRun.Main

/-- Runs the program. -/
def main (texts : List String) : IO UInt32 := do
  let machine := StagedRun.Main.machine (← IO.mkRef false) (← IO.mkRef none)
  let status ← StagedRun.Program.main machine (← StagedRun.Main.environment)
    (← StagedRun.Main.arguments texts)
  return status.toUInt32
