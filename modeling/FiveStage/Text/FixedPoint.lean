/-!
# Doubles with fixed places

A double is written with a fixed number of decimal places by rounding its exact binary value once;
an exact tie goes to the even digit. The value of a finite double is `significand * 2 ^ exponent`,
so the digits come from one division of natural numbers.
-/

namespace FiveStage.Text

/-- The quotient rounded to the nearest natural number, a tie going to the even one. -/
def roundHalfEven (numerator denominator : Nat) : Nat :=
  let quotient := numerator / denominator
  let rest := numerator % denominator
  if 2 * rest < denominator ∨ (2 * rest = denominator ∧ quotient % 2 = 0) then quotient
  else quotient + 1

/-- What the 64 bits of a double stand for. -/
inductive Binary
  | finite (negative : Bool) (significand : Nat) (exponent : Int)
  | infinite (negative : Bool)
  | undefined
deriving DecidableEq, Repr

/-- Reads the sign, the biased exponent and the fraction of a double. -/
def Binary.ofBits (bits : Nat) : Binary :=
  let negative := (bits >>> 63) % 2 == 1
  let biased := (bits >>> 52) % (1 <<< 11)
  let fraction := bits % (1 <<< 52)
  if biased = 2047 then
    if fraction = 0 then .infinite negative else .undefined
  else if biased = 0 then .finite negative fraction (-1074)
  else .finite negative ((1 <<< 52) + fraction) (Int.ofNat biased - 1075)

/-- The multiple of `10 ^ (-places)` nearest to `significand * 2 ^ exponent`, counted in such units.
-/
def fixedUnits (places significand : Nat) (exponent : Int) : Nat :=
  let scaled := significand * Nat.pow 10 places
  match exponent with
  | .ofNat e => scaled <<< e
  | .negSucc e => roundHalfEven scaled (1 <<< (e + 1))

/-- A number of units of the last place, with the point in its place. -/
def withPoint (places units : Nat) : String :=
  let digits := Nat.toDigits 10 units
  let digits := List.replicate (places + 1 - digits.length) '0' ++ digits
  let whole := digits.length - places
  String.ofList (digits.take whole ++ '.' :: digits.drop whole)

/-- A double with the given number of places, at least one. Zero and what rounds to it keep the
sign. -/
def fixed (places : Nat) (x : Float) : String :=
  match Binary.ofBits x.toBits.toNat with
  | .undefined => "NaN"
  | .infinite negative => if negative then "-inf" else "inf"
  | .finite negative significand exponent =>
    (if negative then "-" else "") ++ withPoint places (fixedUnits places significand exponent)

end FiveStage.Text
