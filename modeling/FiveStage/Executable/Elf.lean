import FiveStage.Executable.Format

/-!
# ELF headers

The reader of headers that the commands work with; whatever else reads headers may take its place.
Numbers are spelled in the order that the file says, and the number of segments stands in the first
section if it is too large for the header.

## Main definitions

* `Elf.headers`: reads the header of a file
-/

namespace FiveStage.Elf

/-- A file whose numbers are spelled in a known order. -/
structure Spelled where
  order : Bytes.Order
  file : Bytes

namespace Spelled

/-- The number in the given bytes of the file. -/
def field (source : Spelled) (offset size : Nat) : Nat :=
  Bytes.number source.order (source.file.slice offset size)

/-- Whether the file has the given bytes. -/
def covers (source : Spelled) (offset size : Nat) : Bool := offset + size ≤ source.file.length

end Spelled

/-- The first bytes of an executable file. -/
def magic : Bytes := [0x7f, 0x45, 0x4c, 0x46]

/-- The size of the file header, and of an entry in the table of sections. -/
def headerSize : Nat := 64

/-- The size of an entry in the table of segments. -/
def segmentEntrySize : Nat := 56

/-- The number of segments from which on it stands in the first section. -/
def segmentCountEscape : Nat := 0xffff

/-- The order in which a file spells its numbers, if its header begins as it should: with the magic
bytes, for 64-bit addresses, in one of the two orders, and in version one. -/
def orderOf? (file : Bytes) : Option Bytes.Order :=
  if file.slice 0 4 = magic ∧ file.slice 4 1 = [2] ∧ file.slice 6 1 = [1] then
    match file.slice 5 1 with
    | [1] => some .littleEndian
    | [2] => some .bigEndian
    | _ => none
  else none

/-- The number of segments. A number too large for the header stands in the first section. -/
def segmentCount (source : Spelled) : Except String Nat :=
  -- the header has the count of segments at 56, and the offset of the sections at 40
  let count := source.field 56 2
  let sections := source.field 40 8
  if count < segmentCountEscape then .ok count
  else if sections = 0 then .error "Missing ELF section headers for e_phnum overflow"
  -- the size of a section entry is at 58; the entry itself has the count at 44
  else if source.field 58 2 ≠ headerSize then .error "Invalid ELF section header entry size"
  else if source.covers sections headerSize then .ok (source.field (sections + 44) 4)
  else .error "Invalid ELF section header offset or size"

/-- The entry of the table of segments at an offset of the file. -/
def entryAt (source : Spelled) (offset : Nat) : SegmentEntry where
  kind := source.field offset 4
  segment :=
    { offset := source.field (offset + 8) 8
      address := source.field (offset + 16) 8
      fileSize := source.field (offset + 32) 8
      memorySize := source.field (offset + 40) 8 }

/-- The table of segments. -/
def tableOf (source : Spelled) : Except String (List SegmentEntry) :=
  -- the header has the offset of the table at 32, and the size of its entries at 54
  let table := source.field 32 8
  if table = 0 then .ok []
  else do
    let count ← segmentCount source
    if count = 0 then
      return []
    else if source.field 54 2 ≠ segmentEntrySize then
      throw "Invalid ELF program header entry size"
    else if source.covers table (count * segmentEntrySize) then
      return (List.range count).map fun i => entryAt source (table + i * segmentEntrySize)
    else
      throw "Invalid ELF program header size or alignment"

/-- Reads the header of a file. -/
def headers : HeaderReader := fun file =>
  if file.length < headerSize then .error "Invalid ELF header size or alignment"
  else
    match orderOf? file with
    | none => .error "Unsupported ELF header"
    | some order =>
      let source : Spelled := ⟨order, file⟩
      -- the machine is at 18, the entry at 24
      .ok { machine := source.field 18 2, entry := source.field 24 8, table := tableOf source }

end FiveStage.Elf
