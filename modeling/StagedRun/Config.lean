import StagedRun.Layout
import StagedRun.Options.Basic

/-!
# What a run works on

A `Config` puts what the user chose together with where things are.
-/

namespace StagedRun

/-- The choices of a run and the directories it works on. -/
structure Config where
  options : Options
  layout : Layout
  deriving DecidableEq, Repr

namespace Config

/-- The name of the compiled analyzer in the build directory. -/
def entryName : String := "main.js"

/-- The file that a run reports as its result. -/
def outputPath (config : Config) : Path :=
  config.layout.output.join ⟨config.options.output⟩

end Config

end StagedRun
