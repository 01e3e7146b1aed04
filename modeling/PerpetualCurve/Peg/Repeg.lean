import PerpetualCurve.Peg.Cost

/-!
# Moving the peg toward the oracle

The peg moves to the oracle if the fee budget pays for it. If not, the depth first shrinks by a
fixed ratio; the fees this frees are added to the budget, and the peg goes as far as the larger
budget allows.
-/

namespace PerpetualCurve

/-- The ratio `999 / 1000` the depth shrinks by when the budget does not reach. -/
def shrinkNumerator : Amount := ⟨999, by decide⟩

@[inherit_doc shrinkNumerator]
def shrinkDenominator : Amount := ⟨1000, by decide⟩

/-- A new peg, what it costs, and the ratio the depth is scaled by first. -/
@[ext] structure RepegDecision where
  cost : SignedAmount
  numerator : Amount
  denominator : Amount
  peg : Amount
  deriving DecidableEq

/-- Whether a decision changes the depth. -/
def RepegDecision.adjustsDepth (decision : RepegDecision) : Bool :=
  decision.numerator != decision.denominator

namespace Curve

/-- The move of the peg for an oracle reading. -/
def decideRepeg (curve : Curve) (oracle : OracleReading) (costs : CostModel) :
    Outcome RepegDecision := do
  let price ← oracle.positivePrice
  let target ← pegForPrice curve.base curve.quote price
  let cost ← costs.repegCost curve target
  let budget ← curve.repegBudget
  let limit ← budget.toSigned
  if cost.toInt ≤ limit.toInt then
    return { cost, numerator := Amount.one, denominator := Amount.one, peg := target }
  let shrinkCost ← costs.depthCost curve shrinkNumerator shrinkDenominator
  if 0 < shrinkCost.toInt then
    throw (.costlyShrink shrinkNumerator shrinkDenominator shrinkCost)
  let budget : Amount ←
    Unsigned.checked (budget.toNat + shrinkCost.magnitude.toNat) (.overflow .enlargedBudget)
  let shrunk ← curve.withScaledDepth shrinkNumerator shrinkDenominator
  let shrunk ← shrunk.withTerminal
  let peg ← costs.budgetedPeg shrunk budget price
  let cost ← costs.repegCost shrunk peg
  return { cost, numerator := shrinkNumerator, denominator := shrinkDenominator, peg }

/-- The curve after the repeg for an oracle reading, its cost paid from the fee pool. A curve that
is turned off stays as it is. -/
def updated (curve : Curve) (oracle : OracleReading) (costs : CostModel) : Outcome Curve := do
  if curve.intensity.toNat = 0 then
    return curve
  let decision ← curve.decideRepeg oracle costs
  let scaled ← curve.withScaledDepth decision.numerator decision.denominator
  let repegged ← { scaled with peg := decision.peg }.withTerminal
  let feePool : SignedAmount ←
    Signed.checked (repegged.feePool.toInt - decision.cost.toInt) (.underflow .feePoolAfterRepeg)
  return { repegged with feePool }

/-- The mark price after the repeg for an oracle reading. -/
def repeggedMarkPrice (curve : Curve) (oracle : OracleReading) (costs : CostModel) :
    Outcome Amount := do
  (← curve.updated oracle costs).markPrice

end Curve

end PerpetualCurve
