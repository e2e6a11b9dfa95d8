import StagedRun.Path.Basic
import StagedRun.SystemError
import StagedRun.Exit

/-!
# Failures of a run

A `Failure` is the reason that a run stopped.  There is one constructor for each step that can stop
it, and the fields are what a user needs to find the trouble.

* `Failure.message` is the one line that reports a failure and `Failure.help?` is advice, which
  two of the failures have.
* `Failure.chain` are the causes behind a failure, the nearest first.  A failure of a child has the
  system's reason behind it when the child could not be started, and a reason of the system can have
  further ones behind it.
* `Failure.exitStatus` is the status that the program ends with.  It is never zero: a number that
  does not fit between 1 and 255 counts as 1.
* `Failure.detail` shows a failure with all of its fields, for diagnostics.
-/

namespace StagedRun

/-! ## Children that fail -/

/-- Why a command did not do its work. -/
inductive ChildFailure where
  /-- The child could not be started or waited for. -/
  | notStarted (program : ByteString) (reason : SystemError)
  /-- The child ended without success. -/
  | ended (program : ByteString) (exit : Exit)
  deriving DecidableEq, Repr

/-- The status that stands for a failure without a number that fits. -/
def defaultExitStatus : UInt8 := 1

/-- The status for a number: the number itself when it can be told from success. -/
def exitStatusOf : Option Int → UInt8
  | some number =>
    if 1 ≤ number ∧ number ≤ 255 then UInt8.ofNat number.toNat else defaultExitStatus
  | none => defaultExitStatus

namespace ChildFailure

/-- The text of a child's failure. -/
def message : ChildFailure → String
  | .notStarted program _ => "failed to run " ++ Text.lossy program
  | .ended program exit => Text.lossy program ++ " " ++ exit.message

/-- The status that a child's failure asks for: the number of a child that ran. -/
def exitStatus : ChildFailure → UInt8
  | .notStarted _ _ => defaultExitStatus
  | .ended _ exit => exitStatusOf exit.code?

/-- How a child ended, with its fields. -/
def exitDetail (exit : Exit) : String :=
  Text.record "ProcessExit"
    [("code", Text.optional (exit.code?.map toString)),
      ("signal", Text.optional (exit.signal?.map toString))]

/-- A child's failure with its fields. -/
def detail : ChildFailure → String
  | .notStarted program reason =>
    Text.record "Spawn"
      [("program", Text.quote (Text.lossy program)), ("source", reason.detail)]
  | .ended program exit =>
    Text.record "Exit" [("program", Text.quote (Text.lossy program)), ("exit", exitDetail exit)]

end ChildFailure

/-! ## Failures -/

/-- Why a run stopped. -/
inductive Failure where
  /-- The place of the program itself, or the current directory, is not known. -/
  | toolLocation (reason : SystemError)
  /-- A path is no text. -/
  | nonUtf8Path (path : Path)
  /-- There is no directory above a path. -/
  | noParentDirectory (path : Path)
  /-- The directory with this name and path could not be removed. -/
  | removeDirectory (name : String) (path : Path) (reason : SystemError)
  /-- There is no directory with a compiled analyzer. -/
  | buildDirectoryMissing (path : Path)
  /-- The directory for the output could not be made. -/
  | createOutputDirectory (path : Path) (reason : SystemError)
  /-- The compiler failed. -/
  | buildFailed (cause : ChildFailure)
  /-- The analyzer failed. -/
  | analyzerFailed (cause : ChildFailure)
  deriving DecidableEq, Repr

/-- Something that lies behind a failure. -/
inductive Cause where
  | child (failure : ChildFailure)
  | system (error : SystemError)
  /-- What an error of the system holds as its own reason, and the texts behind that. -/
  | inner (text : String) (behind : List String)
  deriving DecidableEq, Repr

namespace Cause

/-- The text of a cause. -/
def message : Cause → String
  | .child failure => failure.message
  | .system error => error.message
  | .inner text _ => text

/-- The first of the causes with these texts, if there is one. -/
def ofTexts : List String → Option Cause
  | [] => none
  | text :: behind => some (.inner text behind)

/-- What lies behind a cause. -/
def next? : Cause → Option Cause
  | .child (.notStarted _ reason) => some (.system reason)
  | .child (.ended _ _) => none
  | .system error => ofTexts error.behind
  | .inner _ behind => ofTexts behind

/-- How far a cause can be from the last one. -/
def rank : Cause → Nat
  | .child (.notStarted _ reason) => reason.behind.length + 2
  | .child (.ended _ _) => 0
  | .system error => error.behind.length + 1
  | .inner _ behind => behind.length

theorem rank_lt_of_ofTexts {texts : List String} {next : Cause} (h : ofTexts texts = some next) :
    next.rank < texts.length := by
  match texts, h with
  | _ :: behind, rfl => exact Nat.lt_succ_self behind.length

theorem rank_lt_of_next? {cause next : Cause} (h : cause.next? = some next) :
    next.rank < cause.rank := by
  match cause, h with
  | .child (.notStarted _ reason), rfl => exact Nat.lt_succ_self (reason.behind.length + 1)
  | .system error, h => exact Nat.lt_succ_of_lt (rank_lt_of_ofTexts h)
  | .inner _ _, h => exact rank_lt_of_ofTexts h

/-- A cause and everything behind it, the nearest first. -/
def chain (cause : Cause) : List Cause :=
  match _h : cause.next? with
  | none => [cause]
  | some next => cause :: next.chain
termination_by cause.rank
decreasing_by exact rank_lt_of_next? _h

end Cause

namespace Failure

/-- The text that reports a failure. -/
def message : Failure → String
  | .toolLocation _ => "Failed to locate the graphrun executable"
  | .nonUtf8Path path => "Path " ++ path.display ++ " is not valid UTF-8"
  | .noParentDirectory path => "Path " ++ path.display ++ " has no parent directory"
  | .removeDirectory name _ _ => "Failed to remove existing " ++ name ++ " directory"
  | .buildDirectoryMissing _ => "Build directory does not exist"
  | .createOutputDirectory _ _ => "Failed to create output directory"
  | .buildFailed _ => "Build failed"
  | .analyzerFailed _ => "Analyzer failed"

/-- The code under which a failure is documented. -/
def code : Failure → String
  | .toolLocation _ => "graphrun::paths::tool_location"
  | .nonUtf8Path _ => "graphrun::paths::non_utf8"
  | .noParentDirectory _ => "graphrun::paths::no_parent"
  | .removeDirectory _ _ _ => "graphrun::clean::remove_dir"
  | .buildDirectoryMissing _ => "graphrun::run::build_dir_missing"
  | .createOutputDirectory _ _ => "graphrun::run::create_output_dir"
  | .buildFailed _ => "graphrun::build::failed"
  | .analyzerFailed _ => "graphrun::run::analyzer_failed"

/-- What a user can do about a failure, where that is known. -/
def help? : Failure → Option String
  | .noParentDirectory _ => some "pass --root to name the repository root explicitly"
  | .buildDirectoryMissing _ =>
    some "run without --no-build at least once to compile the analyzer"
  | .toolLocation _ | .nonUtf8Path _ | .removeDirectory _ _ _ | .createOutputDirectory _ _
  | .buildFailed _ | .analyzerFailed _ => none

/-- The path that a failure is about. -/
def path? : Failure → Option Path
  | .nonUtf8Path path | .noParentDirectory path | .removeDirectory _ path _
  | .buildDirectoryMissing path | .createOutputDirectory path _ => some path
  | .toolLocation _ | .buildFailed _ | .analyzerFailed _ => none

/-- What lies right behind a failure. -/
def cause? : Failure → Option Cause
  | .toolLocation reason | .removeDirectory _ _ reason | .createOutputDirectory _ reason =>
    some (.system reason)
  | .buildFailed cause | .analyzerFailed cause => some (.child cause)
  | .nonUtf8Path _ | .noParentDirectory _ | .buildDirectoryMissing _ => none

/-- Everything behind a failure, the nearest first. -/
def chain (failure : Failure) : List Cause :=
  match failure.cause? with
  | none => []
  | some cause => cause.chain

/-- The status that the program ends with: the number of the system or of the child where there is
one that fits. -/
def exitStatus : Failure → UInt8
  | .toolLocation reason | .removeDirectory _ _ reason | .createOutputDirectory _ reason =>
    exitStatusOf reason.number?
  | .buildFailed cause | .analyzerFailed cause => cause.exitStatus
  | .nonUtf8Path _ | .noParentDirectory _ | .buildDirectoryMissing _ => defaultExitStatus

/-- A failure with its fields. -/
def detail : Failure → String
  | .toolLocation reason => Text.record "ToolLocation" [("source", reason.detail)]
  | .nonUtf8Path path => Text.record "NonUtf8Path" [("path", Text.quoteBytes path.bytes)]
  | .noParentDirectory path =>
    Text.record "NoParentDirectory" [("path", Text.quoteBytes path.bytes)]
  | .removeDirectory name path reason =>
    Text.record "RemoveDirectory"
      [("name", Text.quote name), ("path", Text.quoteBytes path.bytes),
        ("source", reason.detail)]
  | .buildDirectoryMissing path =>
    Text.record "BuildDirectoryMissing" [("path", Text.quoteBytes path.bytes)]
  | .createOutputDirectory path reason =>
    Text.record "CreateOutputDirectory"
      [("path", Text.quoteBytes path.bytes), ("source", reason.detail)]
  | .buildFailed cause => Text.record "BuildFailed" [("cause", cause.detail)]
  | .analyzerFailed cause => Text.record "AnalyzerFailed" [("cause", cause.detail)]

end Failure

/-! ## Statuses are never zero -/

theorem exitStatusOf_ne_zero (number : Option Int) : exitStatusOf number ≠ 0 := by
  unfold exitStatusOf
  split
  · next n =>
    split
    · next h =>
      intro hzero
      have := congrArg UInt8.toNat hzero
      simp only [UInt8.toNat_ofNat', UInt8.toNat_zero] at this
      omega
    · decide
  · decide

theorem defaultExitStatus_ne_zero : defaultExitStatus ≠ 0 := by
  decide

theorem ChildFailure.exitStatus_ne_zero (failure : ChildFailure) : failure.exitStatus ≠ 0 := by
  cases failure with
  | notStarted program reason => exact defaultExitStatus_ne_zero
  | ended program exit => exact exitStatusOf_ne_zero _

/-- A failure is never reported as success. -/
theorem Failure.exitStatus_ne_zero (failure : Failure) : failure.exitStatus ≠ 0 := by
  cases failure with
  | toolLocation _ | removeDirectory _ _ _ | createOutputDirectory _ _ =>
    exact exitStatusOf_ne_zero _
  | nonUtf8Path _ | noParentDirectory _ | buildDirectoryMissing _ =>
    exact defaultExitStatus_ne_zero
  | buildFailed cause | analyzerFailed cause => exact cause.exitStatus_ne_zero

end StagedRun
