import PerpetualCurve.Number.FixedPoint
import PerpetualCurve.Scale

/-!
# The curve

A perpetual market is priced by a virtual constant-product curve: reserves of base and quote, a
depth whose square they multiply to, and a peg that turns the ratio of the reserves into a price.
Beside the reserves a curve accounts for the net position traders hold against it and for the fees
that may be spent on moving the peg.
-/

namespace PerpetualCurve

/-- A pair of reserves. -/
@[ext] structure Reserves where
  base : Amount
  quote : Amount
  deriving DecidableEq, Inhabited

/-- Reserves, peg and fee accounting of one market. -/
@[ext] structure Curve extends Reserves where
  /-- The depth: the reserves multiply to its square, up to rounding. -/
  sqrtK : Amount := 0
  peg : Amount := 0
  /-- The base traders hold against the curve, long minus short. -/
  netBase : SignedAmount := 0
  /-- The quote reserve once the net position is closed. -/
  terminalQuote : Amount := 0
  exchangeFees : Amount := 0
  /-- All fees less what was distributed or spent. -/
  feePool : SignedAmount := 0
  /-- The spread between bid and ask before any widening. -/
  baseSpread : Unsigned 32 := 0
  /-- Zero turns off repegging and the widening of the spread. -/
  intensity : Unsigned 8 := 0
  longCostBasis : Amount := 0
  shortCostBasis : Amount := 0
  deriving DecidableEq, Inhabited

namespace Curve

/-- The product the reserves are kept at, the square of the depth. -/
def invariant (curve : Curve) : Outcome (Unsigned 256) := squareDepth curve.sqrtK

/-- The part of the fee pool that may be spent on the peg: what lies above half of all exchange
fees. -/
def repegBudget (curve : Curve) : Outcome Amount := do
  let half : Amount := ⟨curve.exchangeFees.toNat / 2,
    Nat.lt_of_le_of_lt (Nat.div_le_self _ _) curve.exchangeFees.toNat_lt⟩
  let reserved ← half.toSigned
  let surplus : SignedAmount ←
    Signed.checked (curve.feePool.toInt - reserved.toInt) (.underflow .repegBudget)
  if surplus.toInt < 0 then pure 0 else surplus.toUnsigned

/-- The quote paid for the open positions, long minus short. -/
def netCostBasis (curve : Curve) : Outcome SignedAmount := do
  let long ← curve.longCostBasis.toSigned
  let short ← curve.shortCostBasis.toSigned
  Signed.checked (long.toInt - short.toInt) (.underflow .netCostBasis)

end Curve

end PerpetualCurve
