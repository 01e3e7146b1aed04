import PerpetualCurve.Record

/-!
# Market listings

What is on record about a market: its names, its place among the markets, and where its oracle is
found.
-/

namespace PerpetualCurve

/-- The network an oracle belongs to. -/
inductive OracleSource where
  | pyth
  | switchboard
  deriving DecidableEq

instance : Tagged OracleSource where
  tags := [.pyth, .switchboard]
  word
    | .pyth => "pyth"
    | .switchboard => "switchboard"

/-- The record of a market. -/
@[ext] structure Listing where
  symbol : String
  index : Unsigned 64
  oracleAddress : String
  mintAddress : String
  oracleSource : OracleSource
  /-- The scale of the oracle's prices. -/
  precision : Unsigned 64
  /-- The power of ten the scale is. -/
  exponent : Unsigned 32
  /-- The name of the market at its venue, where it differs from the symbol. -/
  venue : Option String
  deriving DecidableEq

/-- The fields of a listing. -/
def Listing.fields {V : Type} (format : Format V) : Fields V Listing := do
  let symbol ← .required "symbol" format.text
  let index ← .required "market_index" (format.unsigned 64)
  let oracleAddress ← .required "oracle_address" format.text
  let mintAddress ← .required "mint_address" format.text
  let oracleSource ← .required "oracle_source" format.tag
  let precision ← .required "precision" (format.unsigned 64)
  let exponent ← .required "precision_exponent" (format.unsigned 32)
  let venue ← .withDefault "venue_ref" (format.optional format.text) none
  return { symbol, index, oracleAddress, mintAddress, oracleSource, precision, exponent, venue }

end PerpetualCurve
