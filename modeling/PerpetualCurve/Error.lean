import PerpetualCurve.Number.Bounded

/-!
# Causes of failure

A calculation fails for one of the causes of `PricingError`. An arithmetic cause carries the
`Operation` that failed; `PricingError.message` holds all wording.
-/

namespace PerpetualCurve

/-- The steps of the calculations whose result may leave the width of their type. -/
inductive Operation where
  | mulDiv
  | depthSquared
  | reserveProduct
  | initialQuote
  | rebuiltQuote
  | inventorySize
  | repegBudget
  | netCostBasis
  | swapAdd
  | swapRemove
  | swapOutput
  | quoteSwapAmount
  | quoteAmountSwapped
  | priceNumerator
  | price
  | markOracleGap
  | oracleMarkSpread
  | terminalQuoteGap
  | pegMove
  | repegCost
  | closedBase
  | scaledClosedBase
  | payoutScale
  | payoutBefore
  | payoutAfter
  | payoutChange
  | targetValue
  | targetPeg
  | targetPegRounding
  | enlargedBudget
  | feePoolAfterRepeg
  | oracleRetreat
  | deficitSkew
  | inventoryScale
  | skewedHalfSpread
  | scaledHalfSpread
  | localPnl
  | netPnl
  | pnlGap
  | valueGap
  | feePool
  | effectiveLeverage
  | netInventoryValue
  | localInventoryValue
  | askQuote
  | spreadShift
  | spreadBase
  | limitBase
  | tradeSize
  deriving DecidableEq, Repr

/-- The wording of an operation in a message. -/
def Operation.label : Operation → String
  | mulDiv => "mul_div"
  | depthSquared => "sqrt_k squared"
  | reserveProduct => "base × quote"
  | initialQuote => "initial quote reserve"
  | rebuiltQuote => "rebuild quote reserve"
  | inventorySize => "net base asset amount abs"
  | repegBudget => "repeg budget"
  | netCostBasis => "net cost basis"
  | swapAdd => "swap add"
  | swapRemove => "swap remove"
  | swapOutput => "swap output"
  | quoteSwapAmount => "quote swap amount"
  | quoteAmountSwapped => "quote amount swapped"
  | priceNumerator => "price numerator"
  | price => "price"
  | markOracleGap => "mark - oracle"
  | oracleMarkSpread => "oracle mark spread"
  | terminalQuoteGap => "terminal quote delta"
  | pegMove => "peg delta"
  | repegCost => "repeg cost"
  | closedBase => "base reserve + net base"
  | scaledClosedBase => "scaled base reserve + net base"
  | payoutScale => "adjust k quote scale"
  | payoutBefore => "adjust k before"
  | payoutAfter => "adjust k after"
  | payoutChange => "adjust k payout change"
  | targetValue => "target price × base"
  | targetPeg => "target peg"
  | targetPegRounding => "target peg rounding"
  | enlargedBudget => "repeg budget after k shrink"
  | feePoolAfterRepeg => "fee pool after repeg"
  | oracleRetreat => "oracle retreat"
  | deficitSkew => "max inventory skew"
  | inventoryScale => "inventory scale"
  | skewedHalfSpread => "skewed half spread"
  | scaledHalfSpread => "scaled half spread"
  | localPnl => "local pnl"
  | netPnl => "net pnl"
  | pnlGap => "pnl gap"
  | valueGap => "value gap"
  | feePool => "fee pool"
  | effectiveLeverage => "effective leverage"
  | netInventoryValue => "net base asset value"
  | localInventoryValue => "local base asset value"
  | askQuote => "ask quote reserve"
  | spreadShift => "spread shift"
  | spreadBase => "spread base reserve"
  | limitBase => "limit base reserve"
  | tradeSize => "trade size"

/-- The representations a value is cast between. -/
inductive Representation where
  | unsigned128
  | signed128
  | unsigned192
  | unsigned256
  | decimal
  deriving DecidableEq, Repr

/-- The wording of a representation in a message. -/
def Representation.label : Representation → String
  | unsigned128 => "u128"
  | signed128 => "i128"
  | unsigned192 => "U192"
  | unsigned256 => "U256"
  | decimal => "Decimal"

/-- Why a calculation on a curve has no result. -/
inductive PricingError where
  /-- A result is too large for its width. -/
  | overflow (operation : Operation)
  /-- A difference is too small for its width. -/
  | underflow (operation : Operation)
  | divisionByZero (operation : Operation)
  /-- A value has no counterpart in the representation it is cast to. -/
  | castFailed (value target : Representation)
  /-- An operator that no check precedes left its range. -/
  | escaped (operation : Operation)
  | negativeSwapAmount (amount : SignedAmount)
  /-- Shrinking the depth was priced as an expense. -/
  | costlyShrink (numerator denominator : Amount) (cost : SignedAmount)
  | nonpositiveOraclePrice (price : SignedAmount)
  | spreadExceedsReserves (halfSpread : Amount)
  | zeroLimitPrice
  deriving DecidableEq

/-- The text that reports a failure. -/
def PricingError.message : PricingError → String
  | overflow operation => s!"Overflow in {operation.label}"
  | underflow operation => s!"Underflow in {operation.label}"
  | divisionByZero operation => s!"Division by zero in {operation.label}"
  | castFailed value target => s!"Cast failed: {value.label} does not fit {target.label}"
  | escaped operation => s!"Result out of range in {operation.label}"
  | negativeSwapAmount amount => s!"Swap amount must be non-negative, got {amount.toInt}"
  | costlyShrink numerator denominator cost =>
    s!"Shrinking K by {numerator.toNat}/{denominator.toNat} must free fee pool, " ++
      s!"got cost {cost.toInt}"
  | nonpositiveOraclePrice price => s!"Oracle price must be positive, got {price.toInt}"
  | spreadExceedsReserves halfSpread =>
    s!"Half spread {halfSpread.toNat} exceeds the quote reserve it shifts"
  | zeroLimitPrice => "Limit price must be positive"

/-- The result of a calculation on a curve. -/
abbrev Outcome := Except PricingError

end PerpetualCurve
