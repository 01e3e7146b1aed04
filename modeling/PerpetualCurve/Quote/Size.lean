import PerpetualCurve.Quote.Reserves

/-!
# Trade size up to a limit price

With the invariant `K`, a curve has price `L` where its base reserve is `√(K · peg / L)`. The
distance of that reserve from the one a trade would start at is the size of the trade, and its sign
is the side.
-/

namespace PerpetualCurve

/-- An amount of base and the side to trade it on. -/
@[ext] structure TradeSize where
  amount : Amount
  side : Side
  deriving DecidableEq

/-- Where a trade starts: the base reserve it executes on, and depth and peg of the curve. -/
@[ext] structure TradeStart where
  base : Amount
  sqrtK : Amount
  peg : Amount
  deriving DecidableEq

/-- The base reserve at which a curve of depth `sqrtK` and peg `peg` has price `limit`, rounded
down. -/
def baseAtPrice (sqrtK peg limit : Amount) : Outcome Amount := do
  let invariant ← squareDepth sqrtK
  let scaled : Unsigned 256 ←
    Unsigned.checked (invariant.toNat * Scale.price) (.overflow .limitBase)
  let numerator : Unsigned 256 ←
    Unsigned.checked (scaled.toNat * peg.toNat) (.overflow .limitBase)
  let denominator : Unsigned 256 ←
    Unsigned.checked (limit.toNat * Scale.peg) (.escaped .limitBase)
  let squared ← divide numerator.toNat denominator.toNat (.divisionByZero .limitBase)
  narrow .unsigned256 squared.sqrt

/-- The trade that moves the base reserve `start` to `finish`. -/
def tradeBetween (start finish : Amount) : Outcome TradeSize :=
  if start.toNat < finish.toNat then do
    return { amount := ← finish.difference start (.escaped .tradeSize), side := .short }
  else if finish.toNat < start.toNat then do
    return { amount := ← start.difference finish (.escaped .tradeSize), side := .long }
  else
    return { amount := 0, side := .long }

namespace Curve

/-- Where a trade on `side` starts: on the curve repegged for an oracle reading, or, without one, on
the curve as it is, with its own mark for the oracle. -/
def tradeStart (curve : Curve) (side : Side) (oracle : Option OracleReading) (costs : CostModel)
    (policy : SpreadPolicy) : Outcome TradeStart := do
  match oracle with
  | some oracle =>
    let projected ← curve.projectedReserves side oracle costs policy
    return { base := projected.base, sqrtK := projected.sqrtK, peg := projected.peg }
  | none =>
    let mark ← (← curve.markPrice).toSigned
    let reserves ← curve.spreadReserves side { price := mark } policy
    return { base := reserves.base, sqrtK := curve.sqrtK, peg := curve.peg }

/-- The trade to the base reserve at which the curve has price `limit`. -/
def maxTrade (curve : Curve) (limit : Amount) (side : Side) (oracle : Option OracleReading)
    (costs : CostModel) (policy : SpreadPolicy) : Outcome TradeSize := do
  if limit.toNat = 0 then
    throw .zeroLimitPrice
  let start ← curve.tradeStart side oracle costs policy
  let finish ← baseAtPrice start.sqrtK start.peg limit
  tradeBetween start.base finish

end Curve

end PerpetualCurve
