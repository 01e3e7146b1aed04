import PerpetualCurve.Curve.Price

/-!
# Markets
-/

namespace PerpetualCurve

/-- A perpetual market: its index and its curve. -/
@[ext] structure Market where
  index : Unsigned 64
  curve : Curve
  deriving DecidableEq, Inhabited

/-- The price of a market once every open position is closed. -/
def Market.terminalPrice (market : Market) : Outcome Amount := market.curve.terminalPrice

end PerpetualCurve
