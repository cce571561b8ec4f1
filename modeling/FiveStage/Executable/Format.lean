import FiveStage.Bytes
import FiveStage.Failure

/-!
# Executable files

A file starts with a header that names its machine, its entry and the table of its segments. A
loadable segment takes bytes from the file to an address, and may need more memory than it has
bytes. How headers and tables are spelled is left to a reader of headers.

## Main definitions

* `Segment`, `Executable`: what loading a program needs to know
* `HeaderReader`: what reads the headers of files
* `Executable.read`: takes an executable from a file, or tells what is wrong with it first
* `Executable.bytesOf`: the bytes that a segment takes from the file
-/

namespace FiveStage

/-- A loadable segment: its address, its place in the file and its size in memory. -/
structure Segment where
  address : Nat
  offset : Nat
  fileSize : Nat
  memorySize : Nat
deriving DecidableEq, Repr

/-- The bytes of memory that a segment takes. -/
def Segment.extent (segment : Segment) : Nat := max segment.memorySize segment.fileSize

/-- A program as it is in a file. -/
structure Executable where
  path : String
  entry : Nat
  segments : List Segment
  file : Bytes
deriving DecidableEq, Repr

/-! ### Headers -/

/-- An entry of the table of segments. Not every kind of segment is loaded. -/
structure SegmentEntry where
  kind : Nat
  segment : Segment
deriving DecidableEq, Repr

/-- What stands in the header of a file. Its table of segments may be malformed for itself. -/
structure FileHeader where
  machine : Nat
  entry : Nat
  table : Except String (List SegmentEntry)

/-- What reads the headers of files, or tells what is wrong with them. -/
abbrev HeaderReader := Bytes → Except String FileHeader

namespace Executable

/-- The machine number of the instruction set. -/
def machineNumber : Nat := 243

/-- The kind of the segments that are loaded. -/
def loadableKind : Nat := 1

/-- The entry and the loadable segments of a file. -/
def entryAndSegments (headers : HeaderReader) (file : Bytes) :
    Except FormatFault (Nat × List Segment) := do
  let header ← (headers file).mapError .unreadable
  if header.machine ≠ machineNumber then
    throw (.otherMachine header.machine)
  let entries ← header.table.mapError .unreadable
  return (header.entry, (entries.filter (·.kind == loadableKind)).map (·.segment))

/-- Takes an executable from a file; the path only names it. -/
def read (headers : HeaderReader) (path : String) (file : Bytes) :
    Except ExecutableFault Executable :=
  match entryAndSegments headers file with
  | .ok (entry, segments) => .ok { path, entry, segments, file }
  | .error cause => .error (.malformed path cause)

/-- Takes an executable from what was found at its path. -/
def ofFile (headers : HeaderReader) (path : String) (found : Except FileFault Bytes) :
    Except ExecutableFault Executable :=
  match found with
  | .ok file => read headers path file
  | .error cause => .error (.unreadable path cause)

/-- The bytes that a segment takes from the file. -/
def bytesOf (executable : Executable) (segment : Segment) : Except ExecutableFault Bytes :=
  if segment.offset + segment.fileSize ≤ executable.file.length then
    .ok (executable.file.slice segment.offset segment.fileSize)
  else .error (.segmentOutOfFile segment.offset segment.fileSize)

end Executable

end FiveStage
