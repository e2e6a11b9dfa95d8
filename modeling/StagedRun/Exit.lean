/-!
# How a child ended

A child ends by itself with a code, is ended by a signal, or, as far as its raw status tells, does
neither.  `Exit.ofStatus` reads the raw status, `Exit.succeeded` is the one test that decides
whether a stage goes on, and `Exit.code?` is the number that the program answers with in turn: a
signal counts as 128 more than its number, as shells do.
-/

namespace StagedRun

/-- How a child ended. -/
inductive Exit where
  /-- It ended by itself with this code. -/
  | exited (code : Int)
  /-- It was ended by this signal. -/
  | killed (signal : Int)
  /-- It gave no code, and no signal ended it. -/
  | unknown
  deriving DecidableEq, Repr

namespace Exit

/-- Reads a raw status.  The low seven bits are the signal, where none of them set stands for no
signal and all of them set for a child that has not ended.  The bit above them tells whether the
memory of the child was kept, which makes no difference here, and the eight bits above that are the
code. -/
def ofStatus (status : UInt32) : Exit :=
  let signal := status &&& 0x7F
  if signal = 0 then .exited ((status >>> 8) &&& 0xFF).toNat
  else if signal = 0x7F then .unknown
  else .killed signal.toNat

/-- The number to answer with for this child. -/
def code? : Exit → Option Int
  | .exited code => some code
  | .killed signal => some (128 + signal)
  | .unknown => none

/-- The signal that ended the child. -/
def signal? : Exit → Option Int
  | .killed signal => some signal
  | .exited _ | .unknown => none

/-- Whether the child ended by itself with code zero. -/
def succeeded : Exit → Bool
  | .exited code => code == 0
  | .killed _ | .unknown => false

@[simp] theorem succeeded_iff {exit : Exit} : exit.succeeded = true ↔ exit = .exited 0 := by
  cases exit <;> simp [succeeded]

/-- How the child ended, as the rest of a sentence about it. -/
def message : Exit → String
  | .exited code => "exited with code " ++ toString code
  | .killed signal => "was terminated by signal " ++ toString signal
  | .unknown => "exited without a status code"

end Exit

end StagedRun
