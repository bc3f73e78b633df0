import Mathlib

namespace RealtimeVoice.Base.Rounding

/-- To the nearest integer, ties to the even one. -/
def roundEven (x : ℚ) : ℤ :=
  if x - ⌊x⌋ < 1 / 2 then ⌊x⌋
  else if 1 / 2 < x - ⌊x⌋ then ⌊x⌋ + 1
  else ⌊x⌋ + ⌊x⌋ % 2

/-- The exponent of the last place of the binary64 number nearest to `x`. -/
def lastPlace (x : ℚ) : ℤ := max (Int.log 2 |x| - 52) (-1074)

/-- The binary64 number nearest to `x`, ties to the even significand, for `x`
below the overflow threshold. -/
def double (x : ℚ) : ℚ := roundEven (x / 2 ^ lastPlace x) * 2 ^ lastPlace x

example : roundEven (5 / 2) = 2 ∧ roundEven (7 / 2) = 4 ∧ roundEven (-3 / 2) = -2 := by decide +kernel

example : double (1 / 3) = 6004799503160661 / 2 ^ 54 := by decide +kernel

end RealtimeVoice.Base.Rounding
