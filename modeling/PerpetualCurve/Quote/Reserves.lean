import PerpetualCurve.Peg.Repeg
import PerpetualCurve.Quote.Spread

/-!
# One-sided quotes

A quote is priced from reserves that are shifted by the half spread: the ask adds to the quote
reserve, the bid takes from it, and the base reserve is rebuilt from the invariant. The curve itself
does not change.
-/

namespace PerpetualCurve

/-- Shifted reserves of a repegged curve, with its depth and peg. -/
@[ext] structure ProjectedReserves extends Reserves where
  sqrtK : Amount
  peg : Amount
  deriving DecidableEq

/-- The two prices of a quote. -/
@[ext] structure BidAsk where
  bid : Amount
  ask : Amount
  deriving DecidableEq

namespace Curve

/-- The quote reserve shifted by `halfSpread`: the share of it whose inverse is the scale divided by
the half spread, rounded down. -/
def shiftedQuote (curve : Curve) (side : Side) (halfSpread : Amount) : Outcome Amount := do
  let divisor ← divide Scale.spread halfSpread.toNat (.escaped .spreadShift)
  if divisor = 0 then
    throw (.spreadExceedsReserves halfSpread)
  let shift ← divide curve.quote.toNat divisor (.escaped .spreadShift)
  match side with
  | .long => Unsigned.checked (curve.quote.toNat + shift) (.overflow .askQuote)
  | .short =>
    if curve.quote.toNat ≤ shift then
      throw (.spreadExceedsReserves halfSpread)
    let shift : Amount ← Unsigned.checked shift (.escaped .spreadShift)
    curve.quote.difference shift (.escaped .spreadShift)

/-- The reserves the quote on `side` is priced from. -/
def spreadReserves (curve : Curve) (side : Side) (oracle : OracleReading) (policy : SpreadPolicy) :
    Outcome Reserves := do
  let spread ← curve.halfSpread side oracle policy
  let half : Amount := ⟨spread.toNat / 2, Nat.lt_of_le_of_lt (Nat.div_le_self _ _) spread.toNat_lt⟩
  if half.toNat = 0 then
    return curve.toReserves
  let quote ← curve.shiftedQuote side half
  let invariant ← curve.invariant
  let base ← divide invariant.toNat quote.toNat (.divisionByZero .spreadBase)
  return { base := ← narrow .unsigned256 base, quote }

/-- The reserves the quote on `side` is priced from after the repeg for the oracle reading. -/
def projectedReserves (curve : Curve) (side : Side) (oracle : OracleReading) (costs : CostModel)
    (policy : SpreadPolicy) : Outcome ProjectedReserves := do
  let updated ← curve.updated oracle costs
  let reserves ← updated.spreadReserves side oracle policy
  return { reserves with sqrtK := updated.sqrtK, peg := updated.peg }

/-- Bid and ask of the curve after the repeg for the oracle reading. -/
def bidAsk (curve : Curve) (oracle : OracleReading) (costs : CostModel) (policy : SpreadPolicy) :
    Outcome BidAsk := do
  let updated ← curve.updated oracle costs
  let asking ← updated.spreadReserves .long oracle policy
  let bidding ← updated.spreadReserves .short oracle policy
  let ask ← priceOf asking.base asking.quote updated.peg
  let bid ← priceOf bidding.base bidding.quote updated.peg
  return { bid, ask }

end Curve

end PerpetualCurve
