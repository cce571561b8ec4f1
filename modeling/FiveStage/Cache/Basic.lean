import FiveStage.Cache.Geometry
import FiveStage.Storage.Basic

/-!
# Caches

A cache is an array of lines, those of one set side by side, together with its counters, its timing
and a policy. A line's age counts the touches of other lines since the line was last touched itself,
up to a limit; the oldest line of a full set makes room for a new block.

## Main definitions

* `Line`, `Cache`: the state of a cache
* `Policy`: the decisions around a request that a cache leaves open
* `Cache.freshLines`, `Cache.configure`: gives a cache its lines
* `Cache.lookup`, `Cache.touch`, `Cache.victim`: the line of an address, use of a line, and the line
  that has to give way
-/

namespace FiveStage

/-- A place for one block, with the number of its set. A line that is not valid holds nothing; a
dirty one holds bytes that the storage below has not seen. -/
structure Line where
  tag : Nat
  set : Nat
  age : Nat
  data : Bytes
  valid : Bool
  dirty : Bool
deriving DecidableEq, Repr

/-- A line of a set that holds nothing. -/
def Line.empty (set : Nat) : Line := ⟨0, set, 0, Bytes.zeros blockSize, false, false⟩

instance : Inhabited Line := ⟨Line.empty 0⟩

/-- Ages do not grow beyond this. -/
def maxAge : Nat := 99999

/-- The line after another one was used. -/
def Line.aged (line : Line) : Line := { line with age := min (line.age + 1) maxAge }

/-- The line after it was used. -/
def Line.fresh (line : Line) : Line := { line with age := 0 }

/-- What a cache asks around a request: whether the request goes straight to the storage below, and,
once it was served, which block to bring in as well. The set is announced before the lookup. A
policy may keep a memory of type `σ`. -/
structure Policy (σ : Type) where
  bypass : Nat → AccessKind → σ → Bool × σ
  announce : Nat → σ → σ
  prefetch : Nat → Bool → σ → Option Nat × σ

/-- The policy that never bypasses, partitions or prefetches. -/
def Policy.plain (σ : Type) : Policy σ where
  bypass _ _ memo := (false, memo)
  announce _ memo := memo
  prefetch _ _ memo := (none, memo)

/-- A set-associative cache whose policy remembers a value of type `σ`. -/
structure Cache (σ : Type) where
  name : String
  geometry : Geometry := default
  latency : Latency := {}
  statistics : Statistics := {}
  policy : Policy σ := Policy.plain σ
  memo : σ
  lines : Array Line := #[]

namespace Cache

variable {σ : Type}

/-- Whether the cache has been given its lines. -/
def isConfigured (cache : Cache σ) : Bool := !cache.lines.isEmpty

/-- The first lines of a cache with a geometry. The lines of a set stand side by side. -/
def freshLines (geometry : Geometry) : Array Line :=
  let ways := geometry.entries / geometry.sets
  ((List.range geometry.entries).map fun i => Line.empty (i / ways)).toArray

@[simp] theorem size_freshLines (geometry : Geometry) :
    (freshLines geometry).size = geometry.entries := by
  simp [freshLines]

theorem getElem_freshLines {geometry : Geometry} {i : Nat} (h : i < (freshLines geometry).size) :
    (freshLines geometry)[i] = Line.empty (i / (geometry.entries / geometry.sets)) := by
  simp [freshLines]

/-- Gives a cache the lines of a geometry, which is possible once. -/
def configure (cache : Cache σ) (geometry : Geometry) : Except MemoryFault (Cache σ) :=
  if cache.isConfigured then .error (.misconfigured s!"{cache.name} is already configured")
  else do
    geometry.validate
    if geometry.fits then
      return { cache with geometry, lines := freshLines geometry }
    else
      throw (.tooManyLines geometry.entries)

/-! ### Sets and tags -/

/-- The number of sets; a cache without lines has one, which is empty. -/
def sets (cache : Cache σ) : Nat := if cache.isConfigured then cache.geometry.sets else 1

/-- The number of lines in a set. -/
def ways (cache : Cache σ) : Nat := cache.lines.size / cache.sets

/-- The set of the block at an address. -/
def setOf (cache : Cache σ) (address : Nat) : Nat := address / blockSize % cache.sets

/-- The tag of the block at an address. -/
def tagOf (cache : Cache σ) (address : Nat) : Nat := address / blockSize / cache.sets

/-- The first address of the block with a tag in a set. -/
def addressOf (cache : Cache σ) (tag set : Nat) : Nat := (tag * cache.sets + set) * blockSize

/-- The set among whose lines a line stands. -/
def setOfLine (cache : Cache σ) (index : Nat) : Nat := index / cache.ways

/-- The lines of a set. -/
def linesOf (cache : Cache σ) (set : Nat) : List Nat := List.range' (set * cache.ways) cache.ways

/-- The line at an index. -/
def line (cache : Cache σ) (index : Nat) : Line := cache.lines.getD index (Line.empty 0)

/-- The valid line that holds the block of an address. -/
def lookup (cache : Cache σ) (address : Nat) : Option Nat :=
  (cache.linesOf (cache.setOf address)).find? fun i =>
    (cache.line i).valid && (cache.line i).tag == cache.tagOf address

/-- Whether the block of an address is in the cache. -/
def contains (cache : Cache σ) (address : Nat) : Bool := (cache.lookup address).isSome

/-! ### Use and replacement -/

/-- The cache with one line changed. -/
def modifyLine (cache : Cache σ) (index : Nat) (change : Line → Line) : Cache σ :=
  { cache with lines := cache.lines.modify index change }

/-- The cache after a line was used: all other lines age. -/
def touch (cache : Cache σ) (index : Nat) : Cache σ :=
  { cache with lines := cache.lines.mapIdx fun i l => if i = index then l.fresh else l.aged }

@[simp] theorem size_lines_modifyLine (cache : Cache σ) (index : Nat) (change : Line → Line) :
    (cache.modifyLine index change).lines.size = cache.lines.size := by
  simp [modifyLine]

@[simp] theorem size_lines_touch (cache : Cache σ) (index : Nat) :
    (cache.touch index).lines.size = cache.lines.size := by
  simp [touch]

theorem line_modifyLine {cache : Cache σ} {index i : Nat} {change : Line → Line}
    (h : i < cache.lines.size) :
    (cache.modifyLine index change).line i =
      if index = i then change (cache.line i) else cache.line i := by
  simp [modifyLine, line, h, Array.getElem_modify]

theorem line_touch {cache : Cache σ} {index i : Nat} (h : i < cache.lines.size) :
    (cache.touch index).line i =
      if i = index then (cache.line i).fresh else (cache.line i).aged := by
  simp [touch, line, h]

/-- The first line of a set that holds nothing. -/
def vacant? (cache : Cache σ) (set : Nat) : Option Nat :=
  (cache.linesOf set).find? fun i => !(cache.line i).valid

/-- The oldest line of a set, the first of them if several are equally old. -/
def victim (cache : Cache σ) (set : Nat) : Nat :=
  (cache.linesOf set).foldl
    (fun oldest i => if (cache.line i).age > (cache.line oldest).age then i else oldest)
    (set * cache.ways)

/-- The cache with its counters changed. -/
def count (cache : Cache σ) (change : Statistics → Statistics) : Cache σ :=
  { cache with statistics := change cache.statistics }

end Cache

end FiveStage
