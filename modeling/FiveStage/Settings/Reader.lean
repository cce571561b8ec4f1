import FiveStage.Bytes
import FiveStage.Log
import FiveStage.Component
import FiveStage.Settings.Basic
import FiveStage.Text.Blank

/-!
# Settings in text form

Each line of a settings text sets one thing, and the last line that sets a thing wins. Blank lines
and lines that begin with a slash, a star or a space are comments. The first word of a line says
what is set (`Mem_Latency`, `L1_Latency`, `L1_Config` and so on, or the name of an operation), the
words behind it are the numbers; words beyond the needed numbers are ignored.

## Main definitions

* `Directive`, `Directive.apply`: what a line sets
* `Directive.ofLine`: reads a line
* `Settings.read`, `Settings.ofFile`: reads a text on top of the default settings
-/

namespace FiveStage

open Text

/-- What one line of a settings text does. -/
inductive Directive
  | memoryLatency (latency : Latency)
  | levelLatency (level : CacheLevel) (latency : Latency)
  | levelGeometry (level : CacheLevel) (geometry : Geometry)
  | ticks (mnemonic : Mnemonic) (ticks : Nat)
  | unknown (key : String)
deriving DecidableEq, Repr

namespace Directive

/-- The settings after a directive. -/
def apply (settings : Settings) : Directive → Settings
  | memoryLatency latency => { settings with memoryLatency := latency }
  | levelLatency level latency => settings.modifyLevel level ({ · with latency })
  | levelGeometry level geometry => settings.modifyLevel level ({ · with geometry })
  | ticks mnemonic n => settings.setTicks mnemonic n
  | unknown _ => settings

/-! ### Reading a line -/

/-- Whether a line is a comment or blank. -/
def isComment (line : List Char) : Bool :=
  line.all isBlank || line.head?.any fun c => c == '/' || c == '*' || c == ' '

/-- Reads one number of a line. -/
def readNumber (lineNumber : Nat) (field : String) : Except Failure Nat :=
  match readNatural field with
  | .ok n => .ok n
  | .error _ => .error (.settings (.notANumber lineNumber field))

/-- Reads the first `count` words behind the key of a line as numbers. -/
def readNumbers (lineNumber count : Nat) (fields : List String) : Except Failure (List Nat) :=
  if fields.length < count then
    .error (.settings (.tooFewNumbers lineNumber count fields.length))
  else (fields.take count).mapM (readNumber lineNumber)

/-- Reads a latency: the cycles of a hit and of the bus. -/
def readLatency (lineNumber : Nat) (fields : List String) : Except Failure Latency := do
  let numbers ← readNumbers lineNumber 2 fields
  return ⟨numbers.getD 0 0, numbers.getD 1 0⟩

/-- Reads a geometry: size and ways, and two switches that are on unless zero. -/
def readGeometry (lineNumber : Nat) (fields : List String) : Except Failure Geometry := do
  let numbers ← readNumbers lineNumber 4 fields
  let made :=
    Geometry.make (numbers.getD 0 0) (numbers.getD 1 0) (numbers.getD 2 0 != 0)
      (numbers.getD 3 0 != 0)
  made.mapError Failure.memory

/-- Reads the ticks of an operation. -/
def readTicks (lineNumber : Nat) (key : String) (fields : List String) : Except Failure Directive :=
  match Mnemonic.ofName? key with
  | some m => do
    let numbers ← readNumbers lineNumber 1 fields
    return ticks m (numbers.getD 0 0)
  | none => .ok (unknown key)

/-- What a key sets if it is a level name and a word with an underscore between them. -/
inductive LevelSetting
  | latency
  | geometry
deriving DecidableEq, Repr

/-- Splits a key that sets something about a cache level. -/
def levelKey? (key : String) : Option (CacheLevel × LevelSetting) :=
  CacheLevel.all.findSome? fun level =>
    if key = level.name ++ "_Latency" then some (level, .latency)
    else if key = level.name ++ "_Config" then some (level, .geometry)
    else none

/-- Reads a line with the given key. -/
def ofWords (lineNumber : Nat) (key : String) (fields : List String) : Except Failure Directive :=
  if key = "Mem_Latency" then return memoryLatency (← readLatency lineNumber fields)
  else
    match levelKey? key with
    | some (level, .latency) => return levelLatency level (← readLatency lineNumber fields)
    | some (level, .geometry) => return levelGeometry level (← readGeometry lineNumber fields)
    | none => readTicks lineNumber key fields

/-- Reads a line, which sets nothing if it is a comment. -/
def ofLine (lineNumber : Nat) (line : List Char) : Except Failure (Option Directive) :=
  if isComment line then .ok none
  else
    match words line with
    | [] => .ok none
    | key :: fields => return some (← ofWords lineNumber key fields)

end Directive

/-! ### Reading a text -/

namespace Settings

/-- The settings after the given lines, of which the first has the given number. A key that means
nothing is reported and ignored. -/
def readLines (settings : Settings) (lineNumber : Nat) :
    List (List Char) → EStateM Failure Log Settings
  | [] => return settings
  | line :: rest => do
    match ← settle (Directive.ofLine lineNumber line) with
    | none => readLines settings (lineNumber + 1) rest
    | some directive =>
      if let .unknown key := directive then
        modify (·.add .warn fun _ => s!"line {lineNumber}: unknown instruction '{key}' ignored")
      readLines (directive.apply settings) (lineNumber + 1) rest

/-- Reads a settings text on top of the default settings. -/
def read (text : String) : EStateM Failure Log Settings := readLines default 1 (Text.lines text)

/-- Reads the settings found at a path. -/
def ofFile (path : String) (found : Except FileFault Bytes) : EStateM Failure Log Settings := do
  let bytes ← failingAs Failure.file (settle found)
  match String.fromUTF8? (ByteArray.mk bytes.toArray) with
  | none => throw (.file .notText)
  | some text =>
    modify (·.add .info fun _ => s!"reading configuration from {path}")
    read text

end Settings

end FiveStage
