import FiveStage.Proofs.Executable.LateLoading
import FiveStage.Proofs.Memory.InTurn
import FiveStage.Proofs.Platform.Simulation

/-!
# Printing a string

The call to print a string reads one byte after the other, up to the end of the string or to its
limit, and hands the characters to the host at the end. What is printed is therefore decided by the
bytes that are read in turn and by the pages that are mapped, and a string that runs into a page
that is not mapped is not printed at all. The reads go through the caches, of which nothing else is
seen, as long as no cache has an outdated block.

## Main definitions

* `Platform.Spells`: a string in memory, as it is read byte after byte
* `Platform.GoesOn`: how far a string goes on
* `Platform.Leaves`: what is left after some bytes were read and something was printed
* `Platform.PrintsString`: what the call does

## Main results

* `Platform.scanString_inTurn`, `Platform.printString_inTurn`: how reading and printing end
* `Platform.printsString`: the call, for the bytes that may be read
* `Machine.printsString_afterDeeds`: the call, after a memory was loaded and used in any way
-/

namespace FiveStage

namespace Platform

variable {platform now : Platform} {candidates : Nat → Set UInt8} {address : Nat}
  {string : Nat → UInt8}

/-! ### Strings in memory -/

/-- The characters of the first bytes of a string: each has the code point of its byte. -/
def characters (string : Nat → UInt8) (n : Nat) : List Char :=
  (List.range n).map fun i => Char.ofNat (string i).toNat

theorem characters_succ (string : Nat → UInt8) (n : Nat) :
    characters string (n + 1) = characters string n ++ [Char.ofNat (string n).toNat] := by
  rw [characters, List.range_succ, List.map_append, List.map_singleton, ← characters]

theorem characterOf_byte (b : UInt8) :
    characterOf (BitVec.ofNat 64 b.toNat) = Char.ofNat b.toNat := by
  have small := b.toNat_lt
  rw [characterOf, BitVec.toNat_ofNat]
  congr 1
  omega

theorem ofNat_byte_eq_zero_iff {b : UInt8} : BitVec.ofNat 64 b.toNat = 0 ↔ b = 0 := by
  have small : b.toNat < 2 ^ 64 := b.toNat_lt.trans (by decide)
  rw [← BitVec.toNat_inj, BitVec.toNat_ofNat, Nat.mod_eq_of_lt small, ← UInt8.toNat_inj]
  exact Iff.rfl

/-- A page is mapped for the byte at a distance from an address. -/
abbrev Mapped (platform : Platform) (address distance : Nat) : Prop :=
  platform.space.pages.isMapped (address + distance) = true

/-- The string is what is read from an address on, one byte after the other, as far as pages are
mapped there. -/
def Spells (platform : Platform) (address : Nat) (string : Nat → UInt8) : Prop :=
  ∀ i, platform.Mapped address i →
    platform.space.byteInTurn address i = .ok (BitVec.ofNat 64 (string i).toNat)

/-- None of the first bytes of the string is its end, and pages are mapped for all of them. -/
def GoesOn (platform : Platform) (address : Nat) (string : Nat → UInt8) (n : Nat) : Prop :=
  ∀ i < n, platform.Mapped address i ∧ string i ≠ 0

/-- After the given number of bytes from an address on were read, nothing else has changed but the
host, and that to the given one. -/
structure Leaves (platform : Platform) (address n : Nat) (host : Host) (next : Platform) :
    Prop where
  hart : next.hart = platform.hart
  host : next.host = host
  space : next.space = platform.space.afterBytes address n

theorem Leaves.print {n : Nat} {host : Host} (there : platform.Leaves address n host now)
    (text : String) :
    platform.Leaves address n (host.print text) { now with host := now.host.print text } :=
  ⟨there.hart, congrArg (Host.print · text) there.host, there.space⟩

theorem Leaves.report {n : Nat} {host : Host} (there : platform.Leaves address n host now)
    (log : Log) : platform.Leaves address n host { now with log } :=
  ⟨there.hart, there.host, there.space⟩

/-- A string was scanned up to its end, or up to the bound. -/
def Scanned (platform : Platform) (address : Nat) (string : Nat → UInt8) (bound : Nat)
    (scan : Scan) (next : Platform) : Prop :=
  ∃ k, platform.GoesOn address string k ∧
    scan.characters = characters string k ∧ scan.address = address + k ∧
      (scan.ended = true ∧ k < bound ∧ platform.Mapped address k ∧ string k = 0 ∧
          platform.Leaves address (k + 1) platform.host next ∨
        scan.ended = false ∧ k = bound ∧ platform.Leaves address k platform.host next)

/-- A string was read to a place in front of the bound where no page is mapped. -/
def Stopped (platform : Platform) (address : Nat) (string : Nat → UInt8) (bound : Nat)
    (failure : Failure) (next : Platform) : Prop :=
  ∃ k < bound, platform.GoesOn address string k ∧ ¬ platform.Mapped address k ∧
    failure = .memory (.unmapped (address + k)) ∧ platform.Leaves address k platform.host next

/-- A string was printed: all of it if it has no more than a hundred characters, else the first
hundred of them with a remark. -/
def Printed (platform : Platform) (address : Nat) (string : Nat → UInt8) (next : Platform) : Prop :=
  (∃ k ≤ 100, platform.GoesOn address string k ∧ platform.Mapped address k ∧ string k = 0 ∧
    platform.Leaves address (k + 1)
      (platform.host.print (String.ofList (characters string k) ++ "\n")) next) ∨
  platform.GoesOn address string 101 ∧
    platform.Leaves address 101 (platform.host.print
      (String.ofList (characters string 100) ++ "\nprintf str too long!\n")) next

namespace GoesOn

variable {k n : Nat}

theorem zero : platform.GoesOn address string 0 := fun i inside => absurd inside (Nat.not_lt_zero i)

theorem succ (goes : platform.GoesOn address string n) (mapped : platform.Mapped address n)
    (inner : string n ≠ 0) : platform.GoesOn address string (n + 1) := by
  intro i inside
  rcases Nat.lt_succ_iff_lt_or_eq.mp inside with before | rfl
  · exact goes i before
  · exact ⟨mapped, inner⟩

/-- A string goes on no further than to its end or to an unmapped page. -/
theorem le (goes : platform.GoesOn address string n)
    (stops : platform.Mapped address k → string k = 0) : n ≤ k := by
  by_contra beyond
  obtain ⟨mapped, inner⟩ := goes k (Nat.not_le.mp beyond)
  exact inner (stops mapped)

end GoesOn

/-! ### Reading a string -/

section Reading

variable (offers : platform.space.Offers candidates) (spells : platform.Spells address string)

include offers spells

theorem readByte_ends {n : Nat} (here : platform.Leaves address n platform.host now) :
    Ends (useSpace (AddressSpace.read (address + n) 1)) now
      (fun result next => platform.Mapped address n ∧
        result.1 = BitVec.ofNat 64 (string n).toNat ∧
          platform.Leaves address (n + 1) platform.host next)
      fun failure next => ¬ platform.Mapped address n ∧
        failure = .memory (.unmapped (address + n)) ∧
          platform.Leaves address n platform.host next := by
  obtain ⟨hart, space, host, log⟩ := now
  obtain ⟨rfl, rfl, rfl⟩ := here
  have offers' := AddressSpace.offers_afterBytes offers address n
  have pages := AddressSpace.pages_afterBytes platform.space address n
  rw [useSpace, ends_failingAs, ends_act]
  by_cases mapped : platform.Mapped address n
  · refine (AddressSpace.read_inTurn offers' (pages ▸ mapped) log).mono (fun result next read => ?_)
      fun _ _ none => none.elim
    obtain ⟨seen, left⟩ := read
    have byte : platform.space.byteInTurn address n = .ok result.1 := seen
    rw [spells n mapped] at byte
    exact ⟨mapped, (Except.ok.inj byte).symm, rfl, rfl, left⟩
  · have unmapped : (platform.space.afterBytes address n).pages.isMapped (address + n) = false := by
      rw [pages]
      exact Bool.eq_false_iff.mpr mapped
    refine (AddressSpace.read_inTurn_of_unmapped unmapped log).mono (fun _ _ none => none.elim)
      fun fault next refused => ?_
    obtain ⟨rfl, left⟩ := refused
    exact ⟨mapped, rfl, rfl, rfl, left⟩

theorem scanString_inTurn {n : Nat} (limit : Nat)
    (here : platform.Leaves address n platform.host now)
    (goes : platform.GoesOn address string n) (scan : Scan)
    (read : scan.characters = characters string n) (reached : scan.address = address + n)
    (unended : scan.ended = false) :
    Ends (scanString scan limit) now (platform.Scanned address string (n + limit))
      (platform.Stopped address string (n + limit)) := by
  induction limit generalizing n now scan with
  | zero => exact ⟨n, goes, read, reached, .inr ⟨unended, rfl, here⟩⟩
  | succ limit ih =>
    simp only [scanString, ends_bind, reached]
    refine (readByte_ends offers spells here).mono (fun result next served => ?_)
      fun failure next refused => ?_
    · obtain ⟨mapped, byte, there⟩ := served
      rw [ends_ite, byte]
      split
      · next null =>
        have null' := ofNat_byte_eq_zero_iff.mp null
        exact ⟨n, goes, read, rfl, .inl ⟨rfl, by omega, mapped, null', there⟩⟩
      · next inner =>
        have inner' := mt ofNat_byte_eq_zero_iff.mpr inner
        have read' : scan.characters ++ [characterOf (BitVec.ofNat 64 (string n).toNat)] =
            characters string (n + 1) := by
          rw [read, characterOf_byte, characters_succ]
        have later := ih there (goes.succ mapped inner')
          { scan with
            cycles := max scan.cycles result.2
            characters := scan.characters ++ [characterOf (BitVec.ofNat 64 (string n).toNat)]
            address := address + n + 1 } read' (Nat.add_assoc ..) unended
        rwa [show n + 1 + limit = n + (limit + 1) by omega] at later
    · obtain ⟨unmapped, rfl, there⟩ := refused
      exact ⟨n, by omega, goes, unmapped, rfl, there⟩

/-- How printing a string ends: it is printed up to its end, or its first hundred characters are
printed with a remark, or a page is not mapped. -/
theorem printString_inTurn (here : platform.Leaves address 0 platform.host now) :
    Ends (printString address) now (fun _ => platform.Printed address string)
      (platform.Stopped address string 101) := by
  simp only [printString, ends_bind]
  refine (scanString_inTurn offers spells stringLimit here .zero { address } rfl rfl rfl).mono
    (fun scan next scanned => ?_) fun failure next refused => ?_
  · obtain ⟨k, goes, read, reached, ⟨ended, inside, mapped, null, there⟩ | ⟨unended, rfl, there⟩⟩ :=
      scanned
    · simp only [ended, if_true, ends_bind, ends_pure, ends_print, Bool.false_eq_true, if_false,
        String.append_empty, read]
      have short : k ≤ 100 := by
        simp only [stringLimit] at inside
        omega
      exact .inl ⟨k, short, goes, mapped, null, there.print _⟩
    · simp only [unended, ends_bind, ends_pure, Bool.false_eq_true, if_false, read, reached]
      refine (readByte_ends offers spells there).mono (fun result last served => ?_)
        fun failure last refused => ?_
      · obtain ⟨mapped, byte, there⟩ := served
        rw [Nat.zero_add] at *
        by_cases null : string stringLimit = 0
        · simp only [byte, ofNat_byte_eq_zero_iff, null, ne_eq, not_true_eq_false, decide_false,
            Bool.false_eq_true, if_false, String.append_empty]
          exact .inl ⟨100, Nat.le_refl _, goes, mapped, null, there.print _⟩
        · simp only [byte, ofNat_byte_eq_zero_iff, null, ne_eq, not_false_eq_true, decide_true,
            if_true, ends_bind, ends_report, ends_print]
          have text : String.ofList (characters string stringLimit) ++ "\nprintf str too long!" ++
              "\n" = String.ofList (characters string 100) ++ "\nprintf str too long!\n" := by
            rw [String.append_assoc]
            rfl
          rw [text]
          exact .inr ⟨goes.succ mapped null, (there.print _).report _⟩
      · obtain ⟨unmapped, rfl, there⟩ := refused
        exact ⟨_, by decide, goes, unmapped, rfl, there⟩
  · obtain ⟨k, inside, rest⟩ := refused
    exact ⟨k, by simp only [stringLimit] at inside; omega, rest⟩

section Call

variable (number : platform.hart.register callRegister = 91)
  (argument : (platform.hart.register argumentRegister).toNat = address)

include number argument

/-- How the call to print a string ends. -/
theorem environmentCall_inTurn :
    Ends environmentCall platform (fun _ => platform.Printed address string)
      (platform.Stopped address string 101) := by
  have service : HostService.ofNumber? (platform.hart.register callRegister).toNat =
      some .printString := by
    rw [number]
    rfl
  simp only [environmentCall, ends_bind, ends_register, service, ends_report, argument]
  exact printString_inTurn offers spells ⟨rfl, rfl, rfl⟩

/-- However the call ends, it leaves the address space that some reads leave. -/
theorem exists_space_environmentCall :
    ∃ n, (leftBy environmentCall platform).space = platform.space.afterBytes address n := by
  have ends : Ends environmentCall platform
      (fun _ next => ∃ n, next.space = platform.space.afterBytes address n)
      fun _ next => ∃ n, next.space = platform.space.afterBytes address n := by
    refine (environmentCall_inTurn offers spells number argument).mono
      (fun _ next printed => ?_) fun _ next stopped => ?_
    · obtain ⟨k, -, -, -, -, there⟩ | ⟨-, there⟩ := printed
      · exact ⟨_, there.space⟩
      · exact ⟨_, there.space⟩
    · obtain ⟨k, -, -, -, -, there⟩ := stopped
      exact ⟨_, there.space⟩
  exact ends.leftBy

theorem run_of_ended {k : Nat} (goes : platform.GoesOn address string k) (short : k ≤ 100)
    (mapped : platform.Mapped address k) (null : string k = 0) :
    ∃ cycles next, environmentCall.run platform = .ok cycles next ∧
      platform.Leaves address (k + 1)
        (platform.host.print (String.ofList (characters string k) ++ "\n")) next := by
  -- the call goes on for as long as the string does, and the string for as long as the call
  have stops {k' : Nat} (goes' : platform.GoesOn address string k') : k' ≤ k :=
    goes'.le fun _ => null
  have served : ∀ failure next, ¬ platform.Stopped address string 101 failure next := by
    rintro failure next ⟨k', -, goes', unmapped, -⟩
    have same : k' = k := Nat.le_antisymm (stops goes')
      (goes.le fun mapped' => absurd mapped' unmapped)
    exact unmapped (same ▸ mapped)
  obtain ⟨cycles, next, run, printed⟩ :=
    (environmentCall_inTurn offers spells number argument).exists_ok served
  refine ⟨cycles, next, run, ?_⟩
  obtain ⟨k', -, goes', -, null', there⟩ | ⟨goes', -⟩ := printed
  · obtain rfl : k' = k := Nat.le_antisymm (stops goes') (goes.le fun _ => null')
    exact there
  · exact absurd (stops goes') (by omega)

theorem run_of_overlong (goes : platform.GoesOn address string 101) :
    ∃ cycles next, environmentCall.run platform = .ok cycles next ∧
      platform.Leaves address 101 (platform.host.print
        (String.ofList (characters string 100) ++ "\nprintf str too long!\n")) next := by
  have served : ∀ failure next, ¬ platform.Stopped address string 101 failure next := by
    rintro failure next ⟨k', short, -, unmapped, -⟩
    exact unmapped (goes k' short).1
  obtain ⟨cycles, next, run, printed⟩ :=
    (environmentCall_inTurn offers spells number argument).exists_ok served
  refine ⟨cycles, next, run, ?_⟩
  obtain ⟨k', short, -, -, null, -⟩ | ⟨-, there⟩ := printed
  · exact absurd null (goes k' (Nat.lt_succ_of_le short)).2
  · exact there

theorem run_of_unmapped {k : Nat} (goes : platform.GoesOn address string k) (short : k ≤ 100)
    (unmapped : ¬ platform.Mapped address k) :
    ∃ next, environmentCall.run platform = .error (.memory (.unmapped (address + k))) next ∧
      platform.Leaves address k platform.host next := by
  have ends := environmentCall_inTurn offers spells number argument
  have stops {k' : Nat} (goes' : platform.GoesOn address string k') : k' ≤ k :=
    goes'.le fun mapped => absurd mapped unmapped
  cases run : environmentCall.run platform with
  | ok cycles next =>
    obtain ⟨k', -, goes', mapped, null, -⟩ | ⟨goes', -⟩ := ends.of_ok run
    · have same : k = k' := Nat.le_antisymm (goes.le fun _ => null) (stops goes')
      exact absurd (same ▸ mapped) unmapped
    · exact absurd (stops goes') (by omega)
  | error failure next =>
    obtain ⟨k', -, goes', unmapped', failed, there⟩ := ends.of_error run
    obtain rfl : k = k' := Nat.le_antisymm
      (goes.le fun mapped => absurd mapped unmapped') (stops goes')
    exact ⟨next, by rw [failed], there⟩

end Call

end Reading

/-! ### The call as a whole -/

/-- What a call does that prints the string at the address in the argument register. The string is
what is read there, one byte after the other. It is printed up to its end or, if that does not come
within a hundred characters, cut and with a remark; where a page is not mapped, the call fails and
prints nothing. No more than a hundred and one bytes are read, and only the host and the caches
change: what is seen at an address stays the same if only one byte may be read there, and is one of
those that may be read in any case. -/
structure PrintsString (platform : Platform) (candidates : Nat → Set UInt8) (address : Nat)
    (string : Nat → UInt8) : Prop where
  spells : platform.Spells address string
  byte : ∀ i, platform.Mapped address i → string i ∈ candidates (address + i)
  seen : ∀ i, platform.Mapped address i → (candidates (address + i)).Subsingleton →
    platform.space.byteSeen (address + i) = .ok (BitVec.ofNat 64 (string i).toNat)
  ended : ∀ k ≤ 100, platform.GoesOn address string k → platform.Mapped address k →
    string k = 0 → ∃ cycles next, environmentCall.run platform = .ok cycles next ∧
      platform.Leaves address (k + 1)
        (platform.host.print (String.ofList (characters string k) ++ "\n")) next
  overlong : platform.GoesOn address string 101 →
    ∃ cycles next, environmentCall.run platform = .ok cycles next ∧
      platform.Leaves address 101 (platform.host.print
        (String.ofList (characters string 100) ++ "\nprintf str too long!\n")) next
  unmapped : ∀ k ≤ 100, platform.GoesOn address string k → ¬ platform.Mapped address k →
    ∃ next, environmentCall.run platform = .error (.memory (.unmapped (address + k))) next ∧
      platform.Leaves address k platform.host next
  kept : ∀ x, (candidates x).Subsingleton →
    (leftBy environmentCall platform).space.byteSeen x = platform.space.byteSeen x
  shown : ∀ x, platform.space.pages.isMapped x = true →
    ∃ b ∈ candidates x, (leftBy environmentCall platform).space.byteSeen x =
      .ok (BitVec.ofNat 64 b.toNat)

/-- The call prints the string that is in memory, whatever may be read there. -/
theorem printsString (offers : platform.space.Offers candidates)
    (number : platform.hart.register callRegister = 91)
    (argument : (platform.hart.register argumentRegister).toNat = address) :
    ∃ string, platform.PrintsString candidates address string := by
  obtain ⟨string, inTurn⟩ := AddressSpace.exists_inTurn offers address
  have spells : platform.Spells address string := fun i mapped => (inTurn i mapped).1
  obtain ⟨n, left⟩ := exists_space_environmentCall offers spells number argument
  have offers' := left ▸ AddressSpace.offers_afterBytes offers address n
  have pages := left ▸ AddressSpace.pages_afterBytes platform.space address n
  exact ⟨string,
    { spells
      byte := fun i mapped => (inTurn i mapped).2
      seen := fun i mapped settled => by
        obtain ⟨b, shown, seen⟩ := AddressSpace.byteSeen_mem offers mapped
        rw [seen, settled shown (inTurn i mapped).2]
      ended := fun _ short goes => run_of_ended offers spells number argument goes short
      overlong := run_of_overlong offers spells number argument
      unmapped := fun _ short goes => run_of_unmapped offers spells number argument goes short
      kept := fun _ settled => AddressSpace.byteSeen_eq offers offers' pages settled
      shown := fun _ mapped => AddressSpace.byteSeen_mem offers' (pages ▸ mapped) }⟩

end Platform

namespace Machine

variable {machine : Machine} {settings : Settings} {heuristic : Heuristic} {host : Host} {log : Log}

/-- The call prints the string that is in memory, whatever was loaded and used before. -/
theorem printsString_afterDeeds (made : ofSettings settings heuristic host log = .ok machine)
    (deeds : List Deed) (platform : Platform)
    (memory : platform.space = (afterDeeds deeds machine).platform.space)
    (number : platform.hart.register callRegister = 91) :
    ∃ string, platform.PrintsString (candidates deeds machine fun _ => {0})
      (platform.hart.register argumentRegister).toNat string := by
  have offers := (onward_afterDeeds deeds (offers_of_ofSettings made)).offers
  rw [← memory] at offers
  exact Platform.printsString offers number rfl

/-- The registers of a hart that asks for a service. -/
def callingHart (number argument : Word) : Hart :=
  (Hart.setRegister {} callRegister number).setRegister argumentRegister argument

/-- A word of two characters at the end of a page. -/
theorem printsString_afterDeeds_word : ∃ machine platform string,
    ofSettings tinySettings .bimodal {} {} = .ok machine ∧
      platform.space = (afterDeeds [.load 0x1ffd [104, 105] 3] machine).platform.space ∧
      platform.hart.register callRegister = 91 ∧
      platform.PrintsString (candidates [.load 0x1ffd [104, 105] 3] machine fun _ => {0})
        (platform.hart.register argumentRegister).toNat string ∧
      (leftBy Platform.environmentCall platform).host.output = "hi\n" := by
  have number : (callingHart 91 0x1ffd).register callRegister = 91 := by decide
  have checked : (ofSettings tinySettings .bimodal {} {}).toOption.any (fun machine =>
      let space := (afterDeeds [.load 0x1ffd [104, 105] 3] machine).platform.space
      (leftBy Platform.environmentCall { hart := callingHart 91 0x1ffd, space }).host.output =
        "hi\n") = true := by
    decide +kernel
  obtain ⟨machine, made, printed⟩ := exists_ok_of_any checked
  let platform : Platform :=
    { hart := callingHart 91 0x1ffd
      space := (afterDeeds [.load 0x1ffd [104, 105] 3] machine).platform.space }
  obtain ⟨string, prints⟩ :=
    printsString_afterDeeds made [.load 0x1ffd [104, 105] 3] platform rfl number
  exact ⟨machine, platform, string, made, rfl, number, prints, of_decide_eq_true printed⟩

/-- A byte that is loaded, read, and loaded over. -/
def loadedOver : List Deed :=
  [.load 0x1000 [97] 0x100, .call (.read 0x1000 1), .load 0x1000 [98] 1]

/-- A call that prints the empty string makes the caches give up an outdated block, and with it a
byte that a program has seen before. -/
theorem outdated_after_printString : ∃ machine platform cycles next,
    ofSettings tinySettings .bimodal {} {} = .ok machine ∧
      platform.space = (afterDeeds loadedOver machine).platform.space ∧
      platform.hart.register callRegister = 91 ∧
      platform.hart.register argumentRegister = 0x1080 ∧
      platform.space.byteSeen 0x1000 = .ok 97 ∧
      Platform.environmentCall.run platform = .ok cycles next ∧
      next.space.byteSeen 0x1000 = .ok 98 := by
  have number : (callingHart 91 0x1080).register callRegister = 91 := by decide
  have argument : (callingHart 91 0x1080).register argumentRegister = 0x1080 := by decide
  have checked : (ofSettings tinySettings .bimodal {} {}).toOption.any (fun machine =>
      let space := (afterDeeds loadedOver machine).platform.space
      let platform : Platform := { hart := callingHart 91 0x1080, space }
      space.byteSeen 0x1000 = .ok 97 ∧ succeeds Platform.environmentCall platform ∧
        (leftBy Platform.environmentCall platform).space.byteSeen 0x1000 = .ok 98) = true := by
    decide +kernel
  obtain ⟨machine, made, checked⟩ := exists_ok_of_any checked
  let platform : Platform :=
    { hart := callingHart 91 0x1080, space := (afterDeeds loadedOver machine).platform.space }
  have held : platform.space.byteSeen 0x1000 = .ok 97 ∧
      succeeds Platform.environmentCall platform ∧
        (leftBy Platform.environmentCall platform).space.byteSeen 0x1000 = .ok 98 :=
    of_decide_eq_true checked
  obtain ⟨before, done, after⟩ := held
  obtain ⟨cycles, run⟩ := run_of_succeeds done
  exact ⟨machine, platform, cycles, _, made, rfl, number, argument, before, run, after⟩

end Machine

end FiveStage
