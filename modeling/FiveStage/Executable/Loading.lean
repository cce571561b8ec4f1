import FiveStage.Executable.Format
import FiveStage.Pipeline.Run

/-!
# Loading programs

The segments of an executable are put into the address space in the order of the file. A segment
whose addresses do not fit into a word, or whose bytes are not all in the file, cannot be loaded;
the segments before it stay.
-/

namespace FiveStage

open Text

namespace Platform

/-- Puts one segment of an executable into the address space. -/
def loadSegment (executable : Executable) (segment : Segment) : Action Unit := do
  if segment.address + segment.extent ≥ 1 <<< 64 then
    throw (.executable (.addressOverflow segment.address))
  let bytes ← failingAs Failure.executable (settle (executable.bytesOf segment))
  report .debug fun _ =>
    s!"loading segment at {hex segment.address}: {hex segment.fileSize} bytes in file, {hex segment.extent} in memory"
  useSpace (AddressSpace.loadImage segment.address bytes segment.extent)

/-- Puts segments into the address space, one after the other. -/
def loadSegments (executable : Executable) : List Segment → Action Unit
  | [] => pure ()
  | segment :: rest => do
    loadSegment executable segment
    loadSegments executable rest

/-- Puts all segments of an executable into the address space and gives its entry. -/
def loadExecutable (executable : Executable) : Action Word := do
  loadSegments executable executable.segments
  report .info fun _ => s!"loaded {executable.path} ({executable.segments.length} segments)"
  return BitVec.ofNat 64 executable.entry

end Platform

/-- Loads the program found at a path and prepares to run it. -/
def Machine.load (headers : HeaderReader) (path : String) (found : Except FileFault Bytes) :
    Machine.Action Unit := do
  let executable ← failingAs Failure.executable (settle (Executable.ofFile headers path found))
  let entry ← Machine.onPlatform (Platform.loadExecutable executable)
  Machine.prepare entry

end FiveStage
