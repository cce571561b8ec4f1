import FiveStage.Bytes
import FiveStage.Failure

/-!
# The host of a program

What a program prints is collected, and the integers it reads come from a queue or from a stream of
bytes in which they are spelled, with blanks between them.
-/

namespace FiveStage

open Text

/-- Where the integers come from that a program reads. -/
inductive Input
  | queue (integers : List Int)
  | stream (bytes : Bytes)
deriving DecidableEq, Repr

namespace Input

/-- Whether a byte separates the integers of a stream: a tab, a line feed, a return or a space. -/
def separates (b : UInt8) : Bool := b == 9 || b == 10 || b == 13 || b == 32

/-- The next integer of a stream. The separator behind it is taken as well. -/
def nextInStream (bytes : Bytes) : Except InputFault Int × Bytes :=
  let present := bytes.dropWhile separates
  let token := present.takeWhile fun b => !separates b
  let rest := (present.drop token.length).drop 1
  let text? := String.fromUTF8? (ByteArray.mk token.toArray)
  match text?.map readInteger with
  | some (.ok n) => (.ok n, rest)
  | _ => (.error (.unreadable token), rest)

/-- The next integer and the input after it. -/
def next : Input → Except InputFault Int × Input
  | queue [] => (.error .exhausted, queue [])
  | queue (n :: rest) => (.ok n, queue rest)
  | stream bytes =>
    let (result, rest) := nextInStream bytes
    (result, stream rest)

/-- Whether the next integer is there as a whole, with something behind it. -/
def isReady : Input → Bool
  | queue integers => !integers.isEmpty
  | stream bytes => (bytes.dropWhile separates).any separates

end Input

/-- What a program has printed and what is left of its input. -/
structure Host where
  output : String := ""
  input : Input := .queue []
deriving DecidableEq, Repr

namespace Host

/-- The host after a text was printed. -/
def print (host : Host) (text : String) : Host := { host with output := host.output ++ text }

/-- The host with more bytes at the end of its stream; a queue stays as it is. -/
def supply (host : Host) (bytes : Bytes) : Host :=
  match host.input with
  | .queue _ => host
  | .stream present => { host with input := .stream (present ++ bytes) }

end Host

end FiveStage
