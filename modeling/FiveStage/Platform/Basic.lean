import FiveStage.AddressSpace
import FiveStage.Platform.Hart
import FiveStage.Platform.Host

/-!
# Platforms

All that a program can see or change: the hart, the address space and the host. The log of a run is
kept beside them. How instructions are carried out, one at a time or in a pipeline, is not part of a
platform.
-/

namespace FiveStage

/-- Hart, address space and host, with the log of the run. -/
structure Platform where
  hart : Hart := {}
  space : AddressSpace
  host : Host := {}
  log : Log := {}

namespace Platform

/-- An action on a platform. -/
abbrev Action := EStateM Failure Platform

/-- The address space of a platform, with the log. -/
def spaceOf : Component Platform (Logged AddressSpace) where
  get platform := ⟨platform.space, platform.log⟩
  put piece platform := { platform with space := piece.value, log := piece.log }

/-- Uses the address space. -/
def useSpace {α : Type} (use : AddressSpace.Use α) : Action α :=
  failingAs Failure.memory (spaceOf.act use)

/-- Changes the hart. -/
def onHart (change : Hart → Hart) : Action Unit :=
  modify fun platform => { platform with hart := change platform.hart }

/-- The value of a register. -/
def register (r : Reg) : Action Word := return (← get).hart.register r

/-- Prints a text. -/
def print (text : String) : Action Unit :=
  modify fun platform => { platform with host := platform.host.print text }

/-- Takes the next integer of the input. -/
def readInput : Action Int := do
  let platform ← get
  let (result, input) := platform.host.input.next
  set { platform with host := { platform.host with input } }
  failingAs Failure.input (settle result)

/-- Adds a line to the log. -/
def report (severity : Severity) (line : Unit → String) : Action Unit :=
  modify fun platform => { platform with log := platform.log.add severity line }

end Platform

end FiveStage
