/-!
# Ratios

Rates in reports are quotients of two counters, taken as doubles; with nothing to divide by they are
zero. Counters have 64 bits, and each becomes the nearest double before the division.
-/

namespace FiveStage

/-- The double nearest to a counter. -/
def counterValue (n : Nat) : Float := (UInt64.ofNat n).toFloat

/-- The quotient of two counters, zero if the second one is zero. -/
def ratio (part whole : Nat) : Float :=
  if whole = 0 then 0.0 else counterValue part / counterValue whole

end FiveStage
