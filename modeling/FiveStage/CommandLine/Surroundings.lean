import FiveStage.Simulation.Basic

/-!
# What a command works with

A command reads files, makes one, and runs programs that print and take input. How this is done is
not its own affair: it is given as operations of a monad.

## Main definitions

* `Finding`: what is found at a path
* `Surroundings`: the operations that a command is given
-/

namespace FiveStage

/-- What is found at a path. -/
abbrev Finding := Except FileFault Bytes

/-- Whether there is anything at a path, readable or not. -/
def Finding.exists : Finding → Bool
  | .error .notFound | .error .notDirectory | .error .pathTooLong => false
  | _ => true

/-- What a command is given: a reader for the headers of executables, what it finds at a path, the
making of a directory and of an empty file in it, which may fail, and the run of a simulation. -/
structure Surroundings (m : Type → Type) where
  headers : HeaderReader
  find : String → m Finding
  create (directory name : String) : m (Except String Unit)
  run : Simulation → Log → m Simulation.Outcome

end FiveStage
