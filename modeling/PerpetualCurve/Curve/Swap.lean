import PerpetualCurve.Curve.Basic
import PerpetualCurve.Side

/-!
# Swaps

A swap moves one reserve by the traded amount and rebuilds the other from the invariant. The
division rounds down, whichever way the trade goes.
-/

namespace PerpetualCurve

/-- The input reserve after a swap of `amount`, and the output reserve that keeps the product at
`invariant`. -/
def swapOutput (input : Amount) (amount : SignedAmount) (flow : Flow) (invariant : Unsigned 256) :
    Outcome (Amount × Amount) := do
  if amount.toInt < 0 then
    throw (.negativeSwapAmount amount)
  let amount ← amount.toUnsigned
  let newInput : Amount ←
    match flow with
    | .add => Unsigned.checked (input.toNat + amount.toNat) (.overflow .swapAdd)
    | .remove => input.difference amount (.underflow .swapRemove)
  let newOutput ← divide invariant.toNat newInput.toNat (.divisionByZero .swapOutput)
  return (newInput, ← narrow .unsigned256 newOutput)

/-- The quote paid or received for a change of the quote reserve. The conversion rounds down, and
one unit is added where quote is taken out. -/
def quoteAmountSwapped (shift peg : Amount) (flow : Flow) : Outcome Amount := do
  let amount ← mulDiv shift peg Scale.reservePegToQuote
  match flow with
  | .add => return amount
  | .remove => Unsigned.checked (amount.toNat + 1) (.overflow .quoteAmountSwapped)

namespace Curve

/-- The reserves after a swap of `amount` of `asset`. An amount of quote is converted into reserve
units through the peg. -/
def reservesAfterSwap (curve : Curve) (asset : Asset) (amount : SignedAmount) (flow : Flow) :
    Outcome Reserves := do
  if amount.toInt < 0 then
    throw (.negativeSwapAmount amount)
  let invariant ← curve.invariant
  match asset with
  | .quote =>
    let amount ← amount.toUnsigned
    let shift ← mulDiv amount Scale.reservePegToQuote curve.peg
    let shift : SignedAmount ← Signed.checked shift.toNat (.overflow .quoteSwapAmount)
    let (quote, base) ← swapOutput curve.quote shift flow invariant
    return { base, quote }
  | .base =>
    let (base, quote) ← swapOutput curve.base amount flow invariant
    return { base, quote }

/-- The reserves after the whole net position is closed. -/
def terminalReserves (curve : Curve) : Outcome Reserves := do
  let amount : SignedAmount ←
    Signed.checked (curve.netBase.toInt.natAbs : Int) (.overflow .inventorySize)
  curve.reservesAfterSwap .base amount (.ofTrade .base (.closing curve.netBase))

/-- The curve with the terminal quote reserve of its own reserves and position. -/
def withTerminal (curve : Curve) : Outcome Curve := do
  let terminal ← curve.terminalReserves
  return { curve with terminalQuote := terminal.quote }

/-- The curve with another net position. -/
def withNetBase (curve : Curve) (netBase : SignedAmount) : Outcome Curve :=
  { curve with netBase }.withTerminal

/-- A curve without open positions. Its depth is the square root, rounded down, of the product of
the reserves, and the quote reserve is rebuilt from the depth. -/
def balanced (base quote peg : Amount) : Outcome Curve := do
  let product : Unsigned 256 ←
    Unsigned.checked (base.toNat * quote.toNat) (.overflow .reserveProduct)
  let sqrtK ← narrow .unsigned256 (squareRoot product).toNat
  let invariant ← squareDepth sqrtK
  let quote ← divide invariant.toNat base.toNat (.divisionByZero .initialQuote)
  let quote ← narrow .unsigned256 quote
  return { base, quote, sqrtK, peg, terminalQuote := quote }

/-- The curve with its depth scaled by `numerator / denominator`: base reserve and depth are scaled,
the quote reserve is rebuilt from the invariant, the terminal reserve stays. -/
def withScaledDepth (curve : Curve) (numerator denominator : Amount) : Outcome Curve := do
  let base ← mulDiv curve.base numerator denominator
  let sqrtK ← mulDiv curve.sqrtK numerator denominator
  let scaled := { curve with base, sqrtK }
  let invariant ← scaled.invariant
  let quote ← divide invariant.toNat base.toNat (.divisionByZero .rebuiltQuote)
  return { scaled with quote := ← narrow .unsigned256 quote }

end Curve

end PerpetualCurve
