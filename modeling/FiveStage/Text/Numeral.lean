/-!
# Numerals

How numbers are written in messages (hexadecimal and binary, padded with zeros) and read from texts
(decimal, within a bound).

## Main definitions

* `hex`, `hexPadded`, `binaryPadded`: written numerals
* `readNatural`, `readInteger`: read numerals, with the first reason for which a text is refused
-/

namespace FiveStage.Text

/-- A numeral in the given base, with zeros in front up to the given number of places. -/
def padded (base places n : Nat) : String :=
  let digits := Nat.toDigits base n
  String.ofList (List.replicate (places - digits.length) '0' ++ digits)

/-- Lower-case hexadecimal after `0x`, without leading zeros. -/
def hex (n : Nat) : String := "0x" ++ padded 16 1 n

/-- Lower-case hexadecimal after `0x`, with at least the given number of digits. -/
def hexPadded (places n : Nat) : String := "0x" ++ padded 16 places n

/-- The 32 binary digits of an encoding. -/
def binaryPadded (n : Nat) : String := padded 2 32 n

/-! ### Reading decimals -/

/-- Why a text is no numeral of the wanted range. -/
inductive NumeralFault
  | empty
  | invalidDigit
  | tooLarge
  | tooSmall
deriving DecidableEq, Repr

/-- The wording of a refusal. -/
def NumeralFault.message : NumeralFault → String
  | .empty => "cannot parse integer from empty string"
  | .invalidDigit => "invalid digit found in string"
  | .tooLarge => "number too large to fit in target type"
  | .tooSmall => "number too small to fit in target type"

/-- The value of a decimal digit. -/
def digit? (c : Char) : Option Nat :=
  if c.isDigit then some (c.toNat - '0'.toNat) else none

/-- Continues the numeral `acc` by digits, from the left; the first character that is no digit or
takes the value beyond `bound` decides the refusal. -/
def readDigits (bound : Nat) (overflow : NumeralFault) (acc : Nat) :
    List Char → Except NumeralFault Nat
  | [] => .ok acc
  | c :: rest =>
    match digit? c with
    | none => .error .invalidDigit
    | some d =>
      let value := 10 * acc + d
      if value > bound then .error overflow else readDigits bound overflow value rest

/-- The greatest number of a 64-bit word. -/
def maxNatural : Nat := (1 <<< 64) - 1

/-- Reads an unsigned 64-bit decimal, which may start with a plus sign. -/
def readNatural (text : String) : Except NumeralFault Nat :=
  match text.toList with
  | [] => .error .empty
  | ['+'] => .error .invalidDigit
  | '+' :: digits => readDigits maxNatural .tooLarge 0 digits
  | digits => readDigits maxNatural .tooLarge 0 digits

/-- Reads a signed 64-bit decimal, which may start with a sign. -/
def readInteger (text : String) : Except NumeralFault Int :=
  match text.toList with
  | [] => .error .empty
  | ['+'] => .error .invalidDigit
  | ['-'] => .error .invalidDigit
  | '+' :: digits => (readDigits ((1 <<< 63) - 1) .tooLarge 0 digits).map Int.ofNat
  | '-' :: digits => (readDigits (1 <<< 63) .tooSmall 0 digits).map fun n => -Int.ofNat n
  | digits => (readDigits ((1 <<< 63) - 1) .tooLarge 0 digits).map Int.ofNat

end FiveStage.Text
