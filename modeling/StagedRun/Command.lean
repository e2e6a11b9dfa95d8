import StagedRun.Text.Bytes

/-!
# Commands

A `Command` is a program with its arguments in order.  `Command.display` is the one line that
stands for it in traces; it separates by spaces and quotes nothing.  `Programs` are the two programs
that the pipeline runs, each of which a variable of the environment can replace.
-/

namespace StagedRun

/-- The variables of the environment: what is set, by name. -/
abbrev Environment := String → Option ByteString

/-- A program and its arguments. -/
structure Command where
  program : ByteString
  arguments : List ByteString := []
  deriving DecidableEq, Repr

namespace Command

/-- The command with one more argument. -/
def arg (command : Command) (argument : ByteString) : Command :=
  { command with arguments := command.arguments ++ [argument] }

/-- The command with more arguments. -/
def args (command : Command) (arguments : List ByteString) : Command :=
  { command with arguments := command.arguments ++ arguments }

/-- The program and its arguments with a space before each argument. -/
def display (command : Command) : String :=
  command.arguments.foldl (fun line argument => line ++ " " ++ Text.lossy argument)
    (Text.lossy command.program)

/-- Whether no child can be given these arguments, because one of them holds a zero byte. -/
def holdsZero (command : Command) : Bool :=
  (command.program :: command.arguments).any (·.contains 0)

end Command

/-! ## Programs -/

/-- The program that a variable names: its value if that is a text and not empty, and the program
used without a variable otherwise. -/
def programNamed (environment : Environment) (name fallback : String) : ByteString :=
  match environment name with
  | some bytes => if Text.isUtf8 bytes && !bytes.isEmpty then bytes else Text.encode fallback
  | none => Text.encode fallback

/-- The programs that the build stage and the run stage use. -/
structure Programs where
  compiler : ByteString
  runtime : ByteString
  deriving DecidableEq, Repr

namespace Programs

/-- The program that compiles the analyzer. -/
def defaultCompiler : String := "tsc"

/-- The program that runs the compiled analyzer. -/
def defaultRuntime : String := "node"

/-- The variable that replaces the compiler. -/
def compilerVariable : String := "GRAPHRUN_TSC"

/-- The variable that replaces the runtime. -/
def runtimeVariable : String := "GRAPHRUN_NODE"

/-- The programs used when no variable replaces one. -/
def default : Programs :=
  ⟨Text.encode defaultCompiler, Text.encode defaultRuntime⟩

/-- The programs that an environment asks for. -/
def ofEnvironment (environment : Environment) : Programs where
  compiler := programNamed environment compilerVariable defaultCompiler
  runtime := programNamed environment runtimeVariable defaultRuntime

end Programs

end StagedRun
