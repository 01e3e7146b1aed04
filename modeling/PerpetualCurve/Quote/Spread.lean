import PerpetualCurve.Curve.Price
import PerpetualCurve.Number.Decimal
import PerpetualCurve.Oracle

/-!
# The half spread

Each side of a quote has a half spread, the share of the mark it is meant to keep away from it. The
half spread starts at half the base spread and widens in two steps that do not depend on each other.

* *Retreat.* Where the oracle lies on the far side of the quote, the half spread is at least the
  share of the mark by which the oracle is away from it.
* *Skew.* Where the quote would grow the position traders hold against the curve, or the fee pool is
  empty, the half spread is multiplied by one plus the leverage of the position on the fee pool, at
  most `maxInventorySkew`, and pulled back toward `maxTargetSpread`. A fee pool in deficit
  multiplies the other side by `maxInventorySkew`.
-/

namespace PerpetualCurve

/-- An amount as a decimal. -/
def Unsigned.toDecimal (a : Amount) : Outcome Decimal :=
  (Decimal.ofInt? a.toNat).getDM (.error (.castFailed .unsigned128 .decimal))

/-- A signed amount as a decimal. -/
def Signed.toDecimal (s : SignedAmount) : Outcome Decimal :=
  (Decimal.ofInt? s.toInt).getDM (.error (.castFailed .signed128 .decimal))

namespace Decimal

/-- The largest skew, five. -/
def maxSkew : Decimal := ofNat maxInventorySkew (by decide)

/-- The target spread as a decimal. -/
def maxTarget : Decimal := ofNat maxTargetSpread (by decide)

/-- The least factor that is applied once the target spread is exceeded. -/
def leastScale : Decimal := ⟨105, 2, by decide, by decide⟩

/-- One quote unit, in dollars. -/
def quoteUnit : Decimal := { (1 : Decimal) with scale := 6, scale_le := by decide }

end Decimal

namespace Curve

/-- What closing the net position pays out, at the quote scale. -/
def netInventoryValue (curve : Curve) : Outcome SignedAmount := do
  let quote ← curve.quote.toSigned
  let terminal ← curve.terminalQuote.toSigned
  let gap : SignedAmount ←
    Signed.checked (quote.toInt - terminal.toInt) (.underflow .netInventoryValue)
  let peg ← curve.peg.toSigned
  let value : SignedAmount ←
    Signed.checked (gap.toInt * peg.toInt) (.overflow .netInventoryValue)
  return value.quotient Scale.reservePegToQuote

/-- The net position at the mark price, at the quote scale. -/
def localInventoryValue (curve : Curve) (mark : Amount) : Outcome SignedAmount := do
  let mark ← mark.toSigned
  let value : SignedAmount ←
    Signed.checked (curve.netBase.toInt * mark.toInt) (.overflow .localInventoryValue)
  return value.quotient (Scale.reserveToQuote * Scale.price)

/-- How much more the net position is worth at the mark than when it is closed. Under `costBasis` it
is the difference of the two profits over the cost basis. -/
def inventoryGap (curve : Curve) (mark : Amount) (policy : SpreadPolicy) :
    Outcome SignedAmount := do
  let netValue ← curve.netInventoryValue
  let localValue ← curve.localInventoryValue mark
  match policy with
  | .costBasis =>
    let basis ← curve.netCostBasis
    let localPnl : SignedAmount ←
      Signed.checked (localValue.toInt - basis.toInt) (.underflow .localPnl)
    let netPnl : SignedAmount ← Signed.checked (netValue.toInt - basis.toInt) (.underflow .netPnl)
    Signed.checked (localPnl.toInt - netPnl.toInt) (.underflow .pnlGap)
  | .markToTerminal =>
    Signed.checked (localValue.toInt - netValue.toInt) (.underflow .valueGap)

/-- The inventory gap as a multiple of the fee pool, never below zero. Under `markToTerminal` one
quote unit is added. -/
def effectiveLeverage (curve : Curve) (mark : Amount) (policy : SpreadPolicy) :
    Outcome Decimal := do
  let gap ← curve.inventoryGap mark policy
  let pool : SignedAmount ← Signed.checked (curve.feePool.toInt + 1) (.overflow .feePool)
  let gap ← gap.toDecimal
  let pool ← pool.toDecimal
  let leverage ← (gap.div? pool).getDM (.error (.divisionByZero .effectiveLeverage))
  let leverage ←
    match policy with
    | .costBasis => pure leverage
    | .markToTerminal =>
      (leverage.add? .quoteUnit).getDM (.error (.overflow .effectiveLeverage))
  return max leverage 0

/-- The factor for a half spread: one plus the leverage, at most five. Where the product exceeds the
target spread the factor drops to the rounded quotient of the target and the half spread, but not
below 1.05. -/
def inventoryScale (curve : Curve) (mark halfSpread : Amount) (policy : SpreadPolicy) :
    Outcome Decimal := do
  let leverage ←
    if curve.feePool.toInt ≤ 0 then pure Decimal.maxSkew else curve.effectiveLeverage mark policy
  let factor ← (Decimal.add? 1 leverage).getDM (.error (.overflow .inventoryScale))
  let scale := min .maxSkew factor
  let half ← halfSpread.toDecimal
  let skewed ← (scale.mul? half).getDM (.error (.overflow .skewedHalfSpread))
  if 0 < half ∧ .maxTarget < skewed then
    let meeting ← (Decimal.maxTarget.div? half).getDM (.error (.escaped .inventoryScale))
    return max .leastScale meeting
  return scale

/-- Whether trading on `side` grows the position traders hold against the curve. -/
def growsExposure (curve : Curve) : Side → Bool
  | .long => 0 < curve.netBase.toInt
  | .short => curve.netBase.toInt < 0

end Curve

/-- A half spread multiplied by `scale`, rounded down. -/
def scaleSpread (halfSpread : Amount) (scale : Decimal) : Outcome Amount := do
  let half ← halfSpread.toDecimal
  let scaled ← (half.mul? scale).getDM (.error (.overflow .scaledHalfSpread))
  if scaled.floor < 0 then
    throw (.castFailed .decimal .unsigned128)
  Unsigned.checked scaled.floor.toNat (.castFailed .decimal .unsigned128)

/-- Whether the quote on `side` retreats for a mark that lies `gap` above the oracle. -/
def Side.retreats (gap : SignedAmount) : Side → Bool
  | .long => gap.toInt < 0
  | .short => 0 < gap.toInt

namespace Curve

/-- The half spread of the quote on `side` before any skew: half the base spread, or the distance
between mark and oracle if the quote retreats and that is more. -/
def retreatedSpread (side : Side) (oracle : OracleReading) (policy : SpreadPolicy)
    (gap : SignedAmount) (halfSpread : Amount) : Outcome Amount := do
  if side.retreats gap then
    let retreat : Amount ←
      match policy with
      | .costBasis => pure gap.magnitude
      | .markToTerminal =>
        Unsigned.checked (gap.magnitude.toNat + oracle.confidenceShare.toNat)
          (.overflow .oracleRetreat)
    return if halfSpread.toNat < retreat.toNat then retreat else halfSpread
  return halfSpread

/-- The half spread after the skew for the curve's position and fee pool. -/
def skewedSpread (curve : Curve) (side : Side) (policy : SpreadPolicy) (mark halfSpread : Amount) :
    Outcome Amount := do
  if curve.growsExposure side ∨ curve.feePool.toInt = 0 then
    scaleSpread halfSpread (← curve.inventoryScale mark halfSpread policy)
  else if curve.feePool.toInt < 0 then
    Unsigned.checked (halfSpread.toNat * maxInventorySkew) (.overflow .deficitSkew)
  else
    return halfSpread

/-- The half spread of the quote on `side`, at the spread scale. -/
def halfSpread (curve : Curve) (side : Side) (oracle : OracleReading) (policy : SpreadPolicy) :
    Outcome Amount := do
  let least : Amount := ⟨curve.baseSpread.toNat / 2, by have := curve.baseSpread.toNat_lt; omega⟩
  if curve.baseSpread.toNat = 0 ∨ curve.intensity.toNat = 0 then
    return least
  let mark ← curve.markPrice
  let gap ← oracleMarkSpread mark oracle.price
  let retreated ← retreatedSpread side oracle policy gap least
  curve.skewedSpread side policy mark retreated

end Curve

end PerpetualCurve
