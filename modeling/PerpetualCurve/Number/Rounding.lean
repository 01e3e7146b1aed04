import PerpetualCurve.Number.Power

/-!
# Rounding and positional notation
-/

namespace PerpetualCurve

/-- The whole number nearest to `num / den`; a tie goes to the even one. -/
def roundHalfEven (num : Int) (den : Nat) : Int :=
  if 2 * (num % den) < den then num / den
  else if den < 2 * (num % den) then num / den + 1
  else if num / den % 2 = 0 then num / den else num / den + 1

/-- The number `±magnitude / 10 ^ scale` in positional notation, without trailing zeros behind the
point. -/
def positional (negative : Bool) (magnitude scale : Nat) : List Char :=
  let digits := Nat.toDigits 10 magnitude
  let padded := List.replicate (scale + 1 - digits.length) '0' ++ digits
  let whole := padded.take (padded.length - scale)
  let fraction := ((padded.drop (padded.length - scale)).reverse.dropWhile (· == '0')).reverse
  (if negative then ['-'] else []) ++ whole ++ (if fraction.isEmpty then [] else '.' :: fraction)

end PerpetualCurve
