import FiveStage.Platform.Basic

/-!
# Environment calls

A program asks its host for services by number: printing integers, characters and strings, reading
an integer, and ending the run. An unknown number is reported and does nothing.

## Main definitions

* `HostService`: the services and their numbers
* `printString`: the text at an address, up to its limit
* `environmentCall`: one call, with the cycles its memory accesses took
-/

namespace FiveStage

open Text

namespace Platform

/-- The services of the host. -/
inductive HostService
  | sleep
  | printInteger
  | printCharacter
  | printString
  | readInteger
  | exit
deriving DecidableEq, Repr

/-- The service with a number. -/
def HostService.ofNumber? : Nat → Option HostService
  | 88 => some .sleep
  | 89 => some .printInteger
  | 90 => some .printCharacter
  | 91 => some .printString
  | 92 => some .readInteger
  | 93 => some .exit
  | _ => none

/-- The number of characters of the longest string that is printed whole. -/
def stringLimit : Nat := 100

/-- The character with the code point of a byte. -/
def characterOf (w : Word) : Char := Char.ofNat (w.toNat % 256)

/-- What was read of a string: its characters, whether its end was found, the address behind them
and the most cycles that one of the reads took. -/
structure Scan where
  characters : List Char := []
  ended : Bool := false
  address : Nat
  cycles : Nat := 0

/-- Reads the characters of a string up to its end or up to the given number. -/
def scanString (scan : Scan) : (limit : Nat) → Action Scan
  | 0 => return scan
  | limit + 1 => do
    let (byte, cycles) ← useSpace (AddressSpace.read scan.address 1)
    let scan := { scan with cycles := max scan.cycles cycles }
    if byte = 0 then
      return { scan with ended := true }
    else
      scanString
        { scan with
          characters := scan.characters ++ [characterOf byte]
          address := scan.address + 1 }
        limit

/-- Prints the string at an address and gives the most cycles that one of its reads took. If the
limit is reached, one more byte tells whether the string ends there. -/
def printString (address : Nat) : Action Nat := do
  let scan ← scanString { address } stringLimit
  let (overlong, cycles) ←
    if scan.ended then pure (false, scan.cycles)
    else do
      -- a string of exactly the limit ends at the byte behind it
      let (byte, cycles) ← useSpace (AddressSpace.read scan.address 1)
      pure (decide (byte ≠ 0), max scan.cycles cycles)
  if overlong then
    report .warn fun _ => s!"string at {hex address} truncated"
  let remark := if overlong then "\nprintf str too long!" else ""
  print (String.ofList scan.characters ++ remark ++ "\n")
  return cycles

/-- Serves the call that the registers select, and gives the cycles its memory accesses took. -/
def environmentCall : Action Nat := do
  let number ← register callRegister
  let argument ← register argumentRegister
  match HostService.ofNumber? number.toNat with
  | some .sleep =>
    report .info fun _ => "ECALL: sleep"
    return 0
  | some .printInteger =>
    report .info fun _ => "ECALL: print integer"
    print s!"{argument.toInt}\n"
    return 0
  | some .printCharacter =>
    report .info fun _ => "ECALL: print character"
    print (String.ofList [characterOf argument, '\n'])
    return 0
  | some .printString =>
    report .info fun _ => "ECALL: print string"
    printString argument.toNat
  | some .readInteger =>
    report .info fun _ => "ECALL: read integer"
    let n ← readInput
    onHart (·.setRegister argumentRegister (BitVec.ofInt 64 n))
    return 0
  | some .exit =>
    report .info fun _ => s!"ECALL: exit with {argument.toInt}"
    onHart ({ · with exitCode := some argument.toInt })
    return 0
  | none =>
    report .warn fun _ => s!"unknown system call {number.toNat}"
    return 0

end Platform

end FiveStage
