import FiveStage.Cache.Geometry
import FiveStage.Isa.Mnemonic
import FiveStage.Storage.Basic

/-!
# Settings

What can be chosen about a simulated machine: the geometry and the timing of its three cache levels,
the timing of its memory, and the ticks that each operation takes to execute.
-/

namespace FiveStage

/-- The cache levels, from the top. -/
inductive CacheLevel
  | l1
  | l2
  | llc
deriving DecidableEq, Repr

namespace CacheLevel

/-- All levels, from the top. -/
def all : List CacheLevel := [.l1, .l2, .llc]

/-- The name of a level. -/
def name : CacheLevel → String
  | l1 => "L1"
  | l2 => "L2"
  | llc => "LLC"

end CacheLevel

/-- Geometry and timing of one cache level. -/
structure LevelSettings where
  geometry : Geometry
  latency : Latency
deriving DecidableEq, Repr

/-- All that can be chosen about a machine. -/
structure Settings where
  memoryLatency : Latency
  levels : CacheLevel → LevelSettings
  ticks : Mnemonic → Nat

namespace Settings

/-- The settings that hold where nothing is chosen: only the last cache level and the memory take
more than one cycle, and each operation takes one tick. -/
def default : Settings where
  memoryLatency := ⟨0, 50⟩
  levels
    | .l1 | .l2 => ⟨Geometry.default, ⟨1, 0⟩⟩
    | .llc => ⟨Geometry.default, ⟨20, 0⟩⟩
  ticks _ := 1

instance : Inhabited Settings := ⟨default⟩

/-- The settings with one level changed. -/
def modifyLevel (settings : Settings) (level : CacheLevel)
    (change : LevelSettings → LevelSettings) : Settings :=
  { settings with
    levels := fun l => if l = level then change (settings.levels l) else settings.levels l }

/-- The settings with the ticks of one operation set. -/
def setTicks (settings : Settings) (m : Mnemonic) (ticks : Nat) : Settings :=
  { settings with ticks := fun n => if n = m then ticks else settings.ticks n }

end Settings

end FiveStage
