import PerpetualCurve.Number.Bounded
import PerpetualCurve.Scale

/-!
# Oracle readings
-/

namespace PerpetualCurve

/-- A price feed's answer, at the price scale. -/
@[ext] structure OracleReading where
  price : SignedAmount
  /-- The width of the confidence interval. -/
  confidence : Amount := 0
  deriving DecidableEq, Inhabited

namespace OracleReading

/-- The confidence interval as a share of the price, at the spread scale; zero for a price that is
not positive. The scaled interval saturates at the largest signed amount. -/
def confidenceShare (reading : OracleReading) : Amount :=
  if reading.price.toInt ≤ 0 then 0
  else
    ⟨min (reading.confidence.toNat * Scale.spread) (2 ^ 127 - 1) / reading.price.toInt.toNat, by
      have := Nat.div_le_self (min (reading.confidence.toNat * Scale.spread) (2 ^ 127 - 1))
        reading.price.toInt.toNat
      omega⟩

end OracleReading

end PerpetualCurve
