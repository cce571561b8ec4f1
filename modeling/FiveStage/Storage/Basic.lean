import FiveStage.Bits
import FiveStage.Bytes
import FiveStage.Failure
import FiveStage.Ratio

/-!
# Storage requests

A storage serves requests one after the other, each with a reply. What storages have in common does
not depend on what they are made of: a storage is a function from a request and a state to a reply
and the next state (`Storage`), so a cache can be described over any storage below it.

## Main definitions

* `Request`, `Reply`: what a storage is asked and what it answers
* `Statistics`, `Latency`: the counters and the timing of one storage
* `Event`: what the requester cannot see in a reply's outcome, kept in the reply's journal
* `Storage`: a storage whose states form a given type
-/

namespace FiveStage

/-- Whether a request takes bytes or brings them. -/
inductive AccessKind
  | read
  | write
deriving DecidableEq, Repr

/-- A request for bytes, or one that brings them. -/
inductive Request
  | read (address length : Nat)
  | write (address : Nat) (bytes : Bytes)
deriving DecidableEq, Repr

namespace Request

/-- The first address of the request. -/
def address : Request → Nat
  | read address _ => address
  | write address _ => address

/-- The number of bytes of the request. -/
def length : Request → Nat
  | read _ length => length
  | write _ bytes => bytes.length

/-- The direction of the request. -/
def kind : Request → AccessKind
  | read .. => .read
  | write .. => .write

end Request

/-- A served request: whether the storage asked held the bytes itself, and all the cycles it took
together with the storages below it. -/
structure Access where
  hit : Bool
  total : Nat
deriving DecidableEq, Repr

/-- The cycles that the requester is told. They are added up in a word on the way. -/
def Access.cycles (access : Access) : Nat := wrapped access.total

/-- What one storage counts. `forwarded` counts requests passed on to the storage below. -/
structure Statistics where
  accesses : Nat := 0
  misses : Nat := 0
  replacements : Nat := 0
  forwarded : Nat := 0
  prefetches : Nat := 0
  time : Nat := 0
deriving DecidableEq, Repr

/-- The part of the accesses that missed. -/
def Statistics.missRate (statistics : Statistics) : Float :=
  ratio statistics.misses statistics.accesses

/-- The cycles a storage takes to look something up and to move it. -/
structure Latency where
  hit : Nat := 0
  bus : Nat := 0
deriving DecidableEq, Repr

/-- The cycles of a request served by the storage itself. -/
def Latency.hitTime (latency : Latency) : Nat := latency.hit + latency.bus

/-! ### Journals -/

/-- What happens inside a cache while it serves a request: its policy is consulted, a line is filled
or a dirty block is written back. -/
inductive Happening
  | bypassAsked (address : Nat) (kind : AccessKind)
  | setAnnounced (set : Nat)
  | prefetchAsked (address : Nat) (hit : Bool)
  | filled (cache : String) (address set line cycles : Nat)
  | flushed (cache : String) (address : Nat)
deriving DecidableEq, Repr

/-- A happening and the number of storages between the one asked and the one it happened in. -/
structure Event where
  depth : Nat
  happening : Happening
deriving DecidableEq, Repr

/-- The same event seen from one storage higher. -/
def Event.deeper (event : Event) : Event := { event with depth := event.depth + 1 }

/-! ### Replies -/

/-- The answer to a request. The bytes that were read are delivered even if something fails after
their delivery; the journal lists what happened on the way, in order. -/
structure Reply where
  outcome : Except MemoryFault Access
  delivered : Option Bytes := none
  journal : List Event := []

/-- A storage whose states are of type `S`. -/
abbrev Storage (S : Type) := Request → S → Reply × S

end FiveStage
