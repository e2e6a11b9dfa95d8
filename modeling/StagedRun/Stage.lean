/-!
# Stages

A run is three stages in a fixed order.
-/

namespace StagedRun

/-- A part of a run. -/
inductive Stage where
  /-- Removes what earlier runs left. -/
  | clean
  /-- Compiles the analyzer. -/
  | build
  /-- Runs the analyzer. -/
  | run
  deriving DecidableEq, Repr

namespace Stage

/-- All stages in the order in which they happen. -/
def all : List Stage := [.clean, .build, .run]

/-- The position of a stage, counted from one. -/
def index : Stage → Nat
  | .clean => 1
  | .build => 2
  | .run => 3

/-- The name of a stage. -/
def name : Stage → String
  | .clean => "clean"
  | .build => "build"
  | .run => "run"

end Stage

end StagedRun
