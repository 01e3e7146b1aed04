/-!
# Scales

Every quantity is a whole number of units of its own size. A scale says how many units make one.
-/

namespace PerpetualCurve

namespace Scale

/-- Units in one dollar of a price. -/
def price : Nat := 10000000000

/-- Units in a peg multiplier of one. -/
def peg : Nat := 1000

/-- Units in one contract of base, and in the virtual reserves. -/
def reserve : Nat := 10000000000000

/-- Units in one dollar of fees, costs and cost basis. -/
def quote : Nat := 1000000

/-- Units in a spread of the whole price. -/
def spread : Nat := 1000000

/-- Price units in one peg unit. -/
def priceToPeg : Nat := price / peg

/-- Reserve units in one quote unit. -/
def reserveToQuote : Nat := reserve / quote

/-- Units of reserve times peg in one quote unit. -/
def reservePegToQuote : Nat := reserve * peg / quote

end Scale

/-- The spread the inventory skew is pulled back to, two percent. -/
def maxTargetSpread : Nat := Scale.spread / 50

/-- The largest factor the inventory skew may apply. -/
def maxInventorySkew : Nat := 5

end PerpetualCurve
