import PerpetualCurve.Peg.Target

/-!
# What a change of the curve costs

The repeg decision asks three questions about fees: what does a new peg cost, what does a new depth
cost, and which peg can a budget pay for. A `CostModel` is any way to answer them;
`CostModel.constantProduct` answers in closed form from the reserves.

A positive cost is paid from the fee pool, a negative one goes to it.
-/

namespace PerpetualCurve

/-- Answers to the questions about the cost of changing a curve. -/
structure CostModel where
  /-- The cost of moving the peg, with the reserves as they are. -/
  repegCost : (curve : Curve) → (peg : Amount) → Outcome SignedAmount
  /-- The cost of scaling the depth by `numerator / denominator`. -/
  depthCost : (curve : Curve) → (numerator denominator : Amount) → Outcome SignedAmount
  /-- The peg closest to pricing the curve at `price` whose cost is within `budget`. -/
  budgetedPeg : (curve : Curve) → (budget price : Amount) → Outcome Amount

namespace Curve

/-- The quote reserve traders would take out by closing all positions. -/
def terminalQuoteGap (curve : Curve) : Outcome SignedAmount := do
  let quote ← curve.quote.toSigned
  let terminal ← curve.terminalQuote.toSigned
  Signed.checked (quote.toInt - terminal.toInt) (.underflow .terminalQuoteGap)

/-- The cost of a peg move: what closing all positions pays out at the new peg, less what it pays
out at the old one. -/
def repegCost (curve : Curve) (peg : Amount) : Outcome SignedAmount := do
  let gap ← curve.terminalQuoteGap
  let newPeg ← peg.toSigned
  let oldPeg ← curve.peg.toSigned
  let move : SignedAmount ← Signed.checked (newPeg.toInt - oldPeg.toInt) (.underflow .pegMove)
  let cost : SignedAmount ← Signed.checked (gap.toInt * move.toInt) (.overflow .repegCost)
  return (cost.quotient Scale.reserveToQuote).quotient Scale.peg

/-- The base reserve `base` after the position `netBase` is closed against it, which has to leave
some base. -/
def closedBase (base netBase : SignedAmount) (operation : Operation) : Outcome SignedAmount := do
  let closed : SignedAmount ← Signed.checked (base.toInt + netBase.toInt) (.underflow operation)
  if closed.toInt ≤ 0 then
    throw (.underflow operation)
  return closed

/-- The cost of a change of depth: what closing the net position pays out before, `y·d·Q / (x + d)`,
less what it pays out after, `p·y·d·Q / (p·x + d)`, with its sign turned for a short position. Here
`x` and `y` are the reserves, `Q` the peg, `d` the size of the position and `p` the scaling. -/
def depthCost (curve : Curve) (numerator denominator : Amount) : Outcome SignedAmount := do
  let net := curve.netBase
  if net.toInt = 0 then
    return 0
  let factor ← mulDiv numerator Scale.price denominator
  let base ← curve.base.toSigned
  let scaledBase ← (← mulDiv curve.base factor Scale.price).toSigned
  let closed ← closedBase base net .closedBase
  let scaledClosed ← closedBase scaledBase net .scaledClosedBase
  let product : Unsigned 256 ←
    Unsigned.checked (curve.quote.toNat * net.magnitude.toNat) (.overflow .payoutScale)
  let scale : Unsigned 256 ←
    Unsigned.checked (product.toNat * curve.peg.toNat) (.overflow .payoutScale)
  let before ← divide scale.toNat closed.magnitude.toNat (.divisionByZero .payoutBefore)
  let before ← narrow .unsigned256 before
  let scaled : Unsigned 256 ←
    Unsigned.checked (scale.toNat * factor.toNat) (.overflow .payoutAfter)
  let rescaled := scaled.toNat / Scale.price
  let after ← divide rescaled scaledClosed.magnitude.toNat (.escaped .payoutAfter)
  let after ← narrow .unsigned256 after
  let before ← before.toSigned
  let after ← after.toSigned
  let change : SignedAmount ←
    Signed.checked (before.toInt - after.toInt) (.underflow .payoutChange)
  let change : SignedAmount ←
    Signed.checked (change.toInt * net.toInt.sign) (.escaped .payoutChange)
  let cost : SignedAmount ← Signed.checked (-change.toInt) (.escaped .payoutChange)
  return (cost.quotient Scale.reserveToQuote).quotient Scale.peg

/-- `peg` moved toward `target` by at most `move`, never to zero. -/
def stepPeg (peg target move : Amount) : Amount :=
  if peg.toNat < target.toNat then
    ⟨min (peg.toNat + move.toNat) target.toNat, by have := target.toNat_lt; omega⟩
  else
    ⟨max (max (peg.toNat - move.toNat) target.toNat) 1, by
      have := peg.toNat_lt
      have := target.toNat_lt
      omega⟩

/-- The peg for `price` if the budget pays for it, else one on the way there. As the cost is linear
in the move up to its rounding, the move is the budget divided by the cost of one unit. -/
def budgetedPeg (curve : Curve) (budget price : Amount) : Outcome Amount := do
  let target ← pegForPrice curve.base curve.quote price
  if target = curve.peg then
    return curve.peg
  let limit ← budget.toSigned
  let cost ← curve.repegCost target
  if cost.toInt ≤ limit.toInt then
    return target
  let gap ← curve.terminalQuoteGap
  let move ← mulDiv budget (Scale.reserveToQuote * Scale.peg) gap.magnitude
  return stepPeg curve.peg target move

end Curve

/-- The costs of a constant-product curve, in closed form. -/
def CostModel.constantProduct : CostModel where
  repegCost := Curve.repegCost
  depthCost := Curve.depthCost
  budgetedPeg := Curve.budgetedPeg

end PerpetualCurve
