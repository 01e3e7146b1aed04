import PerpetualCurve.Curve.Swap

/-!
# Prices of reserves

The price of a pair of reserves is `quote / base`, scaled and multiplied by the peg.
-/

namespace PerpetualCurve

/-- The price of the reserves `base` and `quote` under `peg`, rounded down. An empty base reserve
has price zero. -/
def priceOf (base quote peg : Amount) : Outcome Amount := do
  if base.toNat = 0 then
    return 0
  let scaled : Unsigned 192 ←
    Unsigned.checked (quote.toNat * Scale.price) (.overflow .priceNumerator)
  let numerator : Unsigned 192 ←
    Unsigned.checked (scaled.toNat * peg.toNat) (.overflow .priceNumerator)
  let denominator : Unsigned 192 ← Unsigned.checked (Scale.peg * base.toNat) (.escaped .price)
  narrow .unsigned192 (← divide numerator.toNat denominator.toNat (.divisionByZero .price))

/-- How far the mark lies above the oracle, as a share of the mark at the spread scale, rounded
toward zero. -/
def oracleMarkSpread (mark : Amount) (oraclePrice : SignedAmount) : Outcome SignedAmount := do
  let mark ← mark.toSigned
  let gap : SignedAmount ←
    Signed.checked (mark.toInt - oraclePrice.toInt) (.underflow .markOracleGap)
  let scaled : SignedAmount ←
    Signed.checked (gap.toInt * Scale.spread) (.overflow .oracleMarkSpread)
  if mark.toInt = 0 then
    throw (.divisionByZero .oracleMarkSpread)
  Signed.checked (scaled.toInt.tdiv mark.toInt) (.divisionByZero .oracleMarkSpread)

namespace Curve

/-- The price of the current reserves. -/
def markPrice (curve : Curve) : Outcome Amount := priceOf curve.base curve.quote curve.peg

/-- The price once every open position is closed. -/
def terminalPrice (curve : Curve) : Outcome Amount := do
  let terminal ← curve.terminalReserves
  priceOf terminal.base terminal.quote curve.peg

end Curve

end PerpetualCurve
