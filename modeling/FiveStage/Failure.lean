import FiveStage.Bits
import FiveStage.Text.Numeral

/-!
# Failures

Why a run, a storage request, the reading of an executable or of the settings can fail. Each failure
is a cause with the data that belongs to it; the wording of all of them is in the `message`
functions.
-/

namespace FiveStage

open Text

/-- Why a storage refuses an access. -/
inductive AccessFault
  | outOfBounds
  | crossesBlock (length : Nat)
  | invalidSize (size : Nat)
  | unconfigured
deriving DecidableEq, Repr

/-- The wording of a refused access. -/
def AccessFault.message : AccessFault → String
  | .outOfBounds => "Attempted to access memory outside addressable range"
  | .crossesBlock length => s!"Request of {length} bytes crosses a cache block boundary"
  | .invalidSize size => s!"Invalid access size: {size}"
  | .unconfigured => "Cache has not been configured"

/-- Why the memory system fails: an access is refused, the page of an address is not mapped, no
frame is left for it, or a cache is given an impossible shape or more lines than there is room for.
-/
inductive MemoryFault
  | access (address : Nat) (kind : AccessFault)
  | unmapped (address : Nat)
  | outOfFrames (address : Nat)
  | misconfigured (reason : String)
  | tooManyLines (lines : Nat)
deriving DecidableEq, Repr

/-- The wording of a failure of the memory system. -/
def MemoryFault.message : MemoryFault → String
  | .access address kind =>
    s!"Memory access error at address {hexPadded 16 address}: {kind.message}"
  | .unmapped address => s!"Page not allocated: {hexPadded 16 address}"
  | .outOfFrames address => s!"Out of physical frames while mapping {hexPadded 16 address}"
  | .misconfigured reason => s!"Cache misconfigured: {reason}"
  | .tooManyLines _ => "capacity overflow"

/-- Why a file cannot be read: its path leads nowhere, through a file or to a directory, or is too
long, the file is not text where text is wanted, or there is another reason. -/
inductive FileFault
  | notFound
  | notDirectory
  | isDirectory
  | pathTooLong
  | notText
  | unreadable (reason : String)
deriving DecidableEq, Repr

/-- The wording of a failed read. -/
def FileFault.message : FileFault → String
  | .notFound => "No such file or directory (os error 2)"
  | .notDirectory => "Not a directory (os error 20)"
  | .isDirectory => "Is a directory (os error 21)"
  | .pathTooLong => "File name too long (os error 36)"
  | .notText => "stream did not contain valid UTF-8"
  | .unreadable reason => reason

/-- Why no integer can be read from a program's input: there is nothing left, or the next bytes are
no integer. -/
inductive InputFault
  | exhausted
  | unreadable (bytes : List UInt8)
deriving DecidableEq, Repr

/-- The wording of a failed input. -/
def InputFault.message : InputFault → String
  | .exhausted => "no more input"
  | .unreadable bytes => s!"failed to read an integer: {bytes}"

/-- What is wrong with an executable: its header or its table of segments cannot be read, or it is
for another machine. -/
inductive FormatFault
  | unreadable (reason : String)
  | otherMachine (machine : Nat)
deriving DecidableEq, Repr

/-- The wording of a malformed executable. -/
def FormatFault.message : FormatFault → String
  | .unreadable reason => reason
  | .otherMachine machine => s!"not a RISC-V executable (machine {machine})"

/-- Why an executable cannot be loaded: its file is unreadable or malformed, a segment passes the
end of the address space, or the bytes of a segment are not in the file. -/
inductive ExecutableFault
  | unreadable (path : String) (cause : FileFault)
  | malformed (path : String) (cause : FormatFault)
  | addressOverflow (address : Nat)
  | segmentOutOfFile (offset size : Nat)
deriving DecidableEq, Repr

/-- The wording of an executable that cannot be loaded. -/
def ExecutableFault.message : ExecutableFault → String
  | .unreadable path cause => s!"Failed to read ELF file '{path}': {cause.message}"
  | .malformed path cause => s!"Failed to parse ELF file '{path}': {cause.message}"
  | .addressOverflow address => s!"Memory address out of bounds: {hexPadded 16 address}"
  | .segmentOutOfFile offset size =>
    s!"Segment data out of file bounds: offset {hex offset}, size {hex size}"

/-- What is wrong with a line of the settings. Lines count from one. -/
inductive SettingsFault
  | tooFewNumbers (line expected found : Nat)
  | notANumber (line : Nat) (field : String)
deriving DecidableEq, Repr

/-- The wording of a refused line. -/
def SettingsFault.message : SettingsFault → String
  | .tooFewNumbers line expected found =>
    s!"line {line}: expected {expected} numbers, found {found}"
  | .notANumber line field => s!"line {line}: '{field}' is not a number"

/-- Every way in which a simulation can fail. -/
inductive Failure
  | executable (cause : ExecutableFault)
  | cycleLimit (cycles : Nat)
  | notLoaded
  | memory (cause : MemoryFault)
  | illegalInstruction (encoding : Encoding) (pc : Word)
  | noRegister (number : Nat)
  | file (cause : FileFault)
  | input (cause : InputFault)
  | settings (cause : SettingsFault)
deriving DecidableEq, Repr

/-- Whether a failure is a panic: it is not handed on but ends the program that runs the simulation.
-/
def Failure.isPanic : Failure → Bool
  | .noRegister _ | .memory (.tooManyLines _) => true
  | _ => false

/-- The wording of a failure. -/
def Failure.message : Failure → String
  | .executable cause => s!"Failed to load ELF file: {cause.message}"
  | .cycleLimit cycles => s!"CPU execution error: Execution limit reached: {cycles} cycles"
  | .notLoaded => "CPU execution error: Program has not been loaded"
  | .memory cause => s!"Memory error: {cause.message}"
  | .illegalInstruction encoding pc =>
    s!"Invalid instruction: {binaryPadded encoding.toNat} at PC={hexPadded 16 pc.toNat}"
  | .noRegister number => s!"There is no register x{number}"
  | .file cause => s!"IO error: {cause.message}"
  | .input cause => s!"IO error: {cause.message}"
  | .settings cause => s!"Invalid configuration: {cause.message}"

end FiveStage
