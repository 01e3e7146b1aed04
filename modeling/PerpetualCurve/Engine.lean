import PerpetualCurve.Quote.Size

/-!
# Pricing engines

An engine binds a cost model and a spread policy, so that a market is priced with one value. Its
`Action`s are the changes a curve goes through in a market's life; an action that fails leaves the
curve as it was.
-/

namespace PerpetualCurve

/-- A cost model and a spread policy. -/
structure Engine where
  costs : CostModel := .constantProduct
  policy : SpreadPolicy := .costBasis

/-- A change of a curve. -/
inductive Action where
  /-- Start over with a balanced curve. -/
  | start (base quote peg : Amount)
  | setBaseSpread (spread : Unsigned 32)
  | setIntensity (intensity : Unsigned 8)
  | setFees (exchangeFees : Amount) (feePool : SignedAmount)
  | setCostBasis (long short : Amount)
  | setNetBase (netBase : SignedAmount)
  | scaleDepth (numerator denominator : Amount)
  | recomputeTerminal
  /-- Repeg for an oracle reading. -/
  | update (oracle : OracleReading)
  /-- Swap an amount; only the two reserves change. -/
  | swap (asset : Asset) (amount : SignedAmount) (flow : Flow)

namespace Engine

variable (engine : Engine)

/-- The move of the peg for an oracle reading. -/
def decideRepeg (curve : Curve) (oracle : OracleReading) : Outcome RepegDecision :=
  curve.decideRepeg oracle engine.costs

/-- The curve after the repeg for an oracle reading. -/
def update (curve : Curve) (oracle : OracleReading) : Outcome Curve :=
  curve.updated oracle engine.costs

/-- The distance of the quote on a side from the mark. -/
def halfSpread (curve : Curve) (side : Side) (oracle : OracleReading) : Outcome Amount :=
  curve.halfSpread side oracle engine.policy

/-- The reserves the quote on a side is priced from, without a repeg. -/
def spreadReserves (curve : Curve) (side : Side) (oracle : OracleReading) : Outcome Reserves :=
  curve.spreadReserves side oracle engine.policy

/-- The reserves the quote on a side is priced from, after the repeg. -/
def projectedReserves (curve : Curve) (side : Side) (oracle : OracleReading) :
    Outcome ProjectedReserves :=
  curve.projectedReserves side oracle engine.costs engine.policy

/-- The mark price after the repeg. -/
def markPrice (curve : Curve) (oracle : OracleReading) : Outcome Amount :=
  curve.repeggedMarkPrice oracle engine.costs

/-- Bid and ask after the repeg. -/
def bidAsk (curve : Curve) (oracle : OracleReading) : Outcome BidAsk :=
  curve.bidAsk oracle engine.costs engine.policy

/-- The trade that moves the price to a limit, after the repeg if there is an oracle reading. -/
def maxTrade (curve : Curve) (limit : Amount) (side : Side) (oracle : Option OracleReading) :
    Outcome TradeSize :=
  curve.maxTrade limit side oracle engine.costs engine.policy

/-- The curve after an action. -/
def apply (curve : Curve) : Action → Outcome Curve
  | .start base quote peg => Curve.balanced base quote peg
  | .setBaseSpread baseSpread => return { curve with baseSpread }
  | .setIntensity intensity => return { curve with intensity }
  | .setFees exchangeFees feePool => return { curve with exchangeFees, feePool }
  | .setCostBasis longCostBasis shortCostBasis =>
    return { curve with longCostBasis, shortCostBasis }
  | .setNetBase netBase => curve.withNetBase netBase
  | .scaleDepth numerator denominator => curve.withScaledDepth numerator denominator
  | .recomputeTerminal => curve.withTerminal
  | .update oracle => engine.update curve oracle
  | .swap asset amount flow => do
    return { curve with toReserves := ← curve.reservesAfterSwap asset amount flow }

/-- The curve after an action, or as it was where the action fails. -/
def advance (curve : Curve) (action : Action) : Curve :=
  (engine.apply curve action).toOption.getD curve

end Engine

end PerpetualCurve
