import FiveStage.Isa.Effect
import FiveStage.Platform.EnvironmentCall
import FiveStage.Proofs.Memory.Flat

/-!
# Flat platforms

The meaning of a program does not involve time. A flat platform is a hart whose clocks stand still,
a flat memory and a host, and the instructions are functions on it: they are fetched from the flat
memory, computed, carried out there, and environment calls are served by the host.

## Main definitions

* `FlatPlatform`, `Platform.flat`: a platform without its timing, its caches and its log
* `Instruction.following`: the address of the instruction that comes next
* `FlatMemory.fetch`, `FlatMemory.transfer`: the accesses of an instruction
* `FlatPlatform.environmentCall`, `FlatPlatform.carryOut`: the effects of an instruction
* `FlatPlatform.executeNext`, `FlatPlatform.runInstructions`: one instruction, and instructions up
  to the exit
-/

namespace FiveStage

/-- The hart with its clocks at zero. -/
def Hart.untimed (hart : Hart) : Hart :=
  { hart with cycleTicks := 0, counters := { hart.counters with ticks := 0 } }

/-- The address of the instruction that follows when the source registers have the given values. -/
def Instruction.following (inst : Instruction) (a b : Word) : Word :=
  match inst.mnemonic.opcode, inst.target? inst.pc a with
  | .branch, some target => if inst.branches a b then target else inst.pc + 4
  | _, some target => target
  | _, none => inst.pc + 4

/-- Hart, memory and host of a program. -/
structure FlatPlatform where
  hart : Hart
  memory : FlatMemory
  host : Host

/-- The platform without its timing, its caches and its log. -/
def Platform.flat (platform : Platform) : FlatPlatform :=
  ⟨platform.hart.untimed, platform.space.flat, platform.host⟩

namespace FlatMemory

/-- Reads the encoding at an address. -/
def fetch (memory : FlatMemory) (pc : Word) : Except MemoryFault Encoding := do
  let word ← memory.read pc.toNat 4
  return word.setWidth 32

/-- Carries out the load or the store of an operation at an address; `stored` is the value of a
store. What comes back is the loaded word and the memory after it. -/
def transfer (memory : FlatMemory) (m : Mnemonic) (address stored : Word) :
    Except MemoryFault (Option Word × FlatMemory) :=
  if m.isLoad then do
    let raw ← memory.read address.toNat m.accessSize
    return (some (m.extendLoaded raw), memory)
  else if m.isStore then do
    return (none, ← memory.write address.toNat stored m.accessSize)
  else return (none, memory)

/-- Reads the characters of a string up to its end or up to the given number. What comes back is the
string, whether its end was found, and the address behind what was read. -/
def scanString (memory : FlatMemory) (characters : List Char) (address : Nat) :
    (limit : Nat) → Except MemoryFault (List Char × Bool × Nat)
  | 0 => return (characters, false, address)
  | limit + 1 => do
    let byte ← memory.read address 1
    if byte = 0 then
      return (characters, true, address)
    else
      memory.scanString (characters ++ [Platform.characterOf byte]) (address + 1) limit

/-- The text that is printed for the string at an address. -/
def stringAt (memory : FlatMemory) (address : Nat) : Except MemoryFault String := do
  let (characters, ended, behind) ← memory.scanString [] address Platform.stringLimit
  let overlong ←
    if ended then pure false
    else do
      let byte ← memory.read behind 1
      pure (decide (byte ≠ 0))
  let remark := if overlong then "\nprintf str too long!" else ""
  return String.ofList characters ++ remark ++ "\n"

end FlatMemory

namespace FlatPlatform

/-- The platform with its hart changed. -/
def onHart (change : Hart → Hart) (platform : FlatPlatform) : FlatPlatform :=
  { platform with hart := change platform.hart }

/-- The platform after a text was printed. -/
def print (platform : FlatPlatform) (text : String) : FlatPlatform :=
  { platform with host := platform.host.print text }

/-- The next integer of the input, and the platform after it was taken. -/
def readInput (platform : FlatPlatform) : Except InputFault (Int × FlatPlatform) := do
  let n ← platform.host.input.next.1
  return (n, { platform with host := { platform.host with input := platform.host.input.next.2 } })

/-- Serves the call that the registers select. -/
def environmentCall (platform : FlatPlatform) : Except Failure FlatPlatform :=
  let argument := platform.hart.register argumentRegister
  match Platform.HostService.ofNumber? (platform.hart.register callRegister).toNat with
  | some .printInteger => return platform.print s!"{argument.toInt}\n"
  | some .printCharacter =>
    return platform.print (String.ofList [Platform.characterOf argument, '\n'])
  | some .printString => do
    let text ← (platform.memory.stringAt argument.toNat).mapError .memory
    return platform.print text
  | some .readInteger => do
    let (n, platform) ← platform.readInput.mapError .input
    return platform.onHart (·.setRegister argumentRegister (BitVec.ofInt 64 n))
  | some .exit => return platform.onHart ({ · with exitCode := some argument.toInt })
  | some .sleep | none => return platform

/-- Carries out an instruction that is no environment call. -/
def carryOut (platform : FlatPlatform) (inst : Instruction) : Except Failure FlatPlatform := do
  let a := platform.hart.register inst.rs1
  let b := platform.hart.register inst.rs2
  let computed := (inst.value? inst.pc a b).getD 0
  let (loaded, memory) ← (platform.memory.transfer inst.mnemonic computed b).mapError .memory
  let hart :=
    if inst.mnemonic.writesRegister then platform.hart.setRegister inst.rd (loaded.getD computed)
    else platform.hart
  return { platform with
    memory
    hart := { hart with pc := inst.following a b }.count fun c =>
      { c with retired := c.retired + 1 } }

/-- Carries out an environment call and goes on behind it. -/
def callEnvironment (platform : FlatPlatform) (inst : Instruction) :
    Except Failure FlatPlatform := do
  let platform ← platform.environmentCall
  return platform.onHart fun hart =>
    { hart with pc := inst.pc + 4 }.count fun c =>
      { c with environmentCalls := c.environmentCalls + 1 }

/-- The next instruction. -/
def nextInstruction (platform : FlatPlatform) : Except Failure Instruction := do
  let e ← (platform.memory.fetch platform.hart.pc).mapError .memory
  Instruction.decode e platform.hart.pc

/-- Fetches the next instruction and carries it out. -/
def executeNext (platform : FlatPlatform) : Except Failure FlatPlatform := do
  let inst ← platform.nextInstruction
  if inst.isEcall then platform.callEnvironment inst else platform.carryOut inst

/-- At most `fuel` instructions; no exit code comes back if the program has not asked to exit by
then. -/
def runInstructions : (fuel : Nat) → FlatPlatform → Except Failure (Option Int × FlatPlatform)
  | 0, platform => return (none, platform)
  | fuel + 1, platform => do
    let next ← platform.executeNext
    match next.hart.exitCode with
    | some code => return (some code, next)
    | none => runInstructions fuel next

end FlatPlatform

end FiveStage
