import StagedRun.Program
import StagedRun.World.Basic

/-!
# Programs in a world

`World.machine` gives a whole program its surroundings in a world: the files, children and console
of `World.host`, a place for the program itself, and a current directory.
-/

namespace StagedRun

namespace World

variable {κ σ : Type}

/-- The path of the current directory. -/
def currentDirectory (world : World κ σ) : Except SystemError Path := do
  world.files.checkDirectory world.current
  return Place.path world.current

/-- The world after an answer that is no run. -/
def answer (world : World κ σ) (sink : Sink σ) (requested : Bool) (text : String) : World κ σ :=
  if requested then world.emit sink (Text.encode text)
  else { world with lines := world.lines ++ [text] }

/-- The surroundings of a program in a world. -/
def machine (children : Children κ) (sink : Sink σ) (executable : Except SystemError Path) :
    Machine (StateM (World κ σ)) where
  toHost := host children sink
  executable := pure executable
  currentDirectory := do return (← get).currentDirectory
  answer requested text := modify fun world => world.answer sink requested text
  listen listening := modify fun world => { world with listening }

end World

end StagedRun
