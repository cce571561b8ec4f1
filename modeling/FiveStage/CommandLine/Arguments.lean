import FiveStage.Prediction
import FiveStage.Text.Quoted

/-!
# Command-line arguments

The simulator takes the path of a program and a few flags. An argument that begins with a dash is a
flag, until two dashes alone hand over all arguments behind them as they are. The value of a flag is
the argument behind it, whatever that looks like. What is wrong with one argument is found before
what is wrong with all of them together.

## Main definitions

* `Arguments`: what was asked for
* `Arguments.Refusal`: why it cannot be understood, and its wording
* `Arguments.read`: reads a list of arguments
-/

namespace FiveStage

open Text

/-- What the simulator was asked to do. -/
structure Arguments where
  program : String
  settingsPath? : Option String := none
  heuristic? : Option Heuristic := none
  verbose : Bool := false
  cycleLimit : Option Nat := none
deriving DecidableEq, Repr

namespace Arguments

/-- The settings file that is read if none is named. -/
def defaultSettingsPath : String := "default.cfg"

/-- The settings file to read. -/
def settingsPath (arguments : Arguments) : String :=
  arguments.settingsPath?.getD defaultSettingsPath

/-- The heuristic to use. -/
def heuristic (arguments : Arguments) : Heuristic := arguments.heuristic?.getD Heuristic.default

/-- Why arguments are refused, or that help was asked for. -/
inductive Refusal
  | help
  | unexpectedFlag (flag : String)
  | unexpectedArgument (argument : String)
  | missingValue (flag : String)
  | badValue (flag reason : String)
  | repeated (flag : String)
  | missingProgram
deriving DecidableEq, Repr

/-- The text that explains the arguments. -/
def helpText : String :=
  String.intercalate "\n"
    [ "SimArgs",
      "  Cycle-approximate RISC-V RV64IM pipeline simulator.",
      "",
      "ARGS:",
      "    <elf_file>",
      "      Path to the ELF file to simulate.",
      "",
      "OPTIONS:",
      "    -c, --config <path>",
      "      Cache and latency configuration file (default.cfg if omitted).",
      "",
      "    -p, --prediction <heuristic>",
      "      Specifies the branch prediction heuristic.",
      "      AT: Always taken",
      "      ANT: Always not taken (default)",
      "      BI: Bimodal 2-bit counters",
      "      SA: Self-adjusting, history-indexed counters",
      "",
      "    -v, --verbose",
      "      Prints a per-cycle pipeline trace.",
      "",
      "    --max-cycles <limit>",
      "      Gives up after this many pipeline cycles.",
      "",
      "    -h, --help",
      "      Prints help information.",
      "" ]

/-- A text between the marks that set it off in a message. -/
def marked (text : String) : String := "\x60" ++ text ++ "\x60"

/-- The wording of a refusal. -/
def Refusal.message : Refusal → String
  | help => helpText
  | unexpectedFlag flag => s!"unexpected flag: {marked flag}"
  | unexpectedArgument argument => s!"unexpected argument: {quoted argument}"
  | missingValue flag => s!"expected a value for {marked flag}"
  | badValue flag reason => s!"can't parse {marked flag}, {reason}"
  | repeated flag => s!"flag specified more than once: {marked flag}"
  | missingProgram => "flag is required: " ++ marked "elf_file"

/-! ### Reading -/

/-- What was found so far, each kind in the order of its finding, latest first. -/
structure Found where
  settingsPaths : List String := []
  heuristics : List Heuristic := []
  verbosities : List Bool := []
  cycleLimits : List Nat := []
  programs : List String := []

namespace Found

/-- What was found with one more plain argument, of which there can be one. -/
def addPlain (found : Found) (argument : String) : Except Refusal Found :=
  if found.programs.isEmpty then .ok { found with programs := [argument] }
  else .error (.unexpectedArgument argument)

/-- What was found with several more plain arguments. -/
def addAllPlain (found : Found) : List String → Except Refusal Found
  | [] => .ok found
  | argument :: rest => do
    let found ← found.addPlain argument
    found.addAllPlain rest

/-- The value of a flag that can be given at most once. -/
def atMostOnce {α : Type} (flag : String) : List α → Except Refusal (Option α)
  | [] => .ok none
  | [a] => .ok (some a)
  | _ :: _ :: _ => .error (.repeated flag)

/-- The arguments, if nothing was given twice and the program was given. -/
def complete (found : Found) : Except Refusal Arguments := do
  let settingsPath? ← atMostOnce "--config" found.settingsPaths
  let heuristic? ← atMostOnce "--prediction" found.heuristics
  let verbose? ← atMostOnce "--verbose" found.verbosities
  let cycleLimit ← atMostOnce "--max-cycles" found.cycleLimits
  match found.programs with
  | [] => throw .missingProgram
  | program :: _ =>
    return { program, settingsPath?, heuristic?, verbose := verbose?.isSome, cycleLimit }

end Found

/-- The flags. -/
inductive Flag
  | config
  | prediction
  | verbose
  | maxCycles
  | help
deriving DecidableEq, Repr

/-- The flag that is spelled by an argument. -/
def Flag.ofSpelling? : String → Option Flag
  | "-c" | "--config" => some .config
  | "-p" | "--prediction" => some .prediction
  | "-v" | "--verbose" => some .verbose
  | "--max-cycles" => some .maxCycles
  | "-h" | "--help" => some .help
  | _ => none

/-- What was found with the value of a flag, which the argument `spelling` spells. -/
def addValue (found : Found) (flag : Flag) (spelling value : String) : Except Refusal Found :=
  match flag with
  | .config => .ok { found with settingsPaths := value :: found.settingsPaths }
  | .prediction =>
    match Heuristic.ofCode? value with
    | some h => .ok { found with heuristics := h :: found.heuristics }
    | none => .error (.badValue spelling (Heuristic.refusal value))
  | .maxCycles =>
    match readNatural value with
    | .ok n => .ok { found with cycleLimits := n :: found.cycleLimits }
    | .error fault => .error (.badValue spelling fault.message)
  | .verbose | .help => .ok found

/-- Reads arguments on top of what was found before them. -/
def collect (found : Found) : List String → Except Refusal Found
  | [] => .ok found
  | "--" :: rest => found.addAllPlain rest
  | argument :: rest =>
    if argument.toList.head? = some '-' then
      match Flag.ofSpelling? argument with
      | none => .error (.unexpectedFlag argument)
      | some .help => .error .help
      | some .verbose => collect { found with verbosities := true :: found.verbosities } rest
      | some flag =>
        match rest with
        | [] => .error (.missingValue argument)
        | value :: rest => do
          let found ← addValue found flag argument value
          collect found rest
    else do
      let found ← found.addPlain argument
      collect found rest

/-- Reads the arguments of the simulator. -/
def read (arguments : List String) : Except Refusal Arguments := do
  let found ← collect {} arguments
  found.complete

end Arguments

end FiveStage
