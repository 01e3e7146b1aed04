import PerpetualCurve.Curve.Price
import PerpetualCurve.Oracle

/-!
# The peg that meets a price
-/

namespace PerpetualCurve

/-- The peg that prices the reserves `base` and `quote` at `price`, to the nearest unit with half a
unit going up. It is never zero, which would price all reserves alike. -/
def pegForPrice (base quote price : Amount) : Outcome Amount := do
  let value : Unsigned 192 ← Unsigned.checked (price.toNat * base.toNat) (.overflow .targetValue)
  let scaled ← divide value.toNat quote.toNat (.divisionByZero .targetPeg)
  let raised : Unsigned 192 ←
    Unsigned.checked (scaled + Scale.priceToPeg / 2) (.overflow .targetPegRounding)
  let peg ← narrow .unsigned192 (raised.toNat / Scale.priceToPeg)
  return if peg.toNat = 0 then Amount.one else peg

/-- The price of a reading, which has to be positive. -/
def OracleReading.positivePrice (reading : OracleReading) : Outcome Amount :=
  if reading.price.toInt ≤ 0 then .error (.nonpositiveOraclePrice reading.price)
  else reading.price.toUnsigned

/-- The peg that prices the curve at the oracle. -/
def Curve.targetPeg (curve : Curve) (oracle : OracleReading) : Outcome Amount := do
  pegForPrice curve.base curve.quote (← oracle.positivePrice)

end PerpetualCurve
