import PerpetualCurve.Json.Value
import PerpetualCurve.Market.Basic
import PerpetualCurve.Record
import PerpetualCurve.Settings.Basic

/-!
# Records in JSON

A record is written as an object with its fields in order, and read from such an object or from an
array of its fields; names that are not its own are passed over. A tag is written as its word, and
read from the word or from an object with that word as its only name and `null` behind it.
-/

namespace PerpetualCurve.Json

/-- JSON as a data format. -/
def format : Format Value where
  parts
    | .object members => (Value.named? members).map .named
    | .array items => some (.positional items)
    | _ => none
  exact := true
  list
    | .array items => some items
    | _ => none
  text
    | .scalar (.string text) => text
    | _ => none
  natural
    | .scalar (.integer false magnitude) => some magnitude
    | _ => none
  word
    | .scalar (.string word) => word
    | .object [(word, .scalar .null)] => word
    | _ => none
  isAbsent
    | .scalar .null => true
    | _ => false

/-- Types with a JSON form. -/
class Coded (α : Type) where
  encode : α → Value
  decode : Value → Option α

open Coded

/-- What a text reads as. -/
def parse? (α : Type) [Coded α] (text : String) : Option α := (Value.read? text).bind decode

/-- The compact text of a value. -/
def print {α : Type} [Coded α] (a : α) : String := (encode a).write

instance : Coded String where
  encode text := .scalar (.string (some text))
  decode := format.text

instance {bits : Nat} : Coded (Unsigned bits) where
  encode n := .scalar (.integer false n.toNat)
  decode := format.unsigned bits

instance {bits : Nat} : Coded (Signed bits) where
  encode i := .scalar (.integer (decide (i.toInt < 0)) i.toInt.natAbs)
  decode
    | .scalar (.integer false magnitude) => Signed.ofInt? bits magnitude
    | .scalar (.integer true magnitude) => Signed.ofInt? bits (-magnitude)
    | _ => none

instance {α : Type} [Tagged α] : Coded α where
  encode tag := .scalar (.string (some (Tagged.word tag)))
  decode := format.tag

instance {α : Type} [Coded α] : Coded (Option α) where
  encode
    | some a => encode a
    | none => .scalar .null
  decode := format.optional decode

instance {α : Type} [Coded α] : Coded (List α) where
  encode items := .array (items.map encode)
  decode := format.listOf decode

/-- A field that has to be there, in its JSON form. -/
def field (α : Type) [Coded α] (name : String) : Fields Value α := .required name decode

instance : Coded Reserves where
  encode reserves :=
    .record [("base_asset_reserve", encode reserves.base),
      ("quote_asset_reserve", encode reserves.quote)]
  decode := format.record do
    return {
      base := ← field _ "base_asset_reserve"
      quote := ← field _ "quote_asset_reserve" }

instance : Coded ProjectedReserves where
  encode reserves :=
    .record [("base_asset_reserve", encode reserves.base),
      ("quote_asset_reserve", encode reserves.quote),
      ("sqrt_k", encode reserves.sqrtK),
      ("new_peg", encode reserves.peg)]
  decode := format.record do
    return {
      base := ← field _ "base_asset_reserve"
      quote := ← field _ "quote_asset_reserve"
      sqrtK := ← field _ "sqrt_k"
      peg := ← field _ "new_peg" }

instance : Coded Curve where
  encode curve :=
    .record [("base_asset_reserve", encode curve.base),
      ("quote_asset_reserve", encode curve.quote),
      ("sqrt_k", encode curve.sqrtK),
      ("peg_multiplier", encode curve.peg),
      ("net_base_asset_amount", encode curve.netBase),
      ("terminal_quote_asset_reserve", encode curve.terminalQuote),
      ("total_exchange_fee", encode curve.exchangeFees),
      ("total_fee_minus_distributions", encode curve.feePool),
      ("base_spread", encode curve.baseSpread),
      ("curve_update_intensity", encode curve.intensity),
      ("quote_asset_amount_long", encode curve.longCostBasis),
      ("quote_asset_amount_short", encode curve.shortCostBasis)]
  decode := format.record do
    return {
      base := ← field _ "base_asset_reserve"
      quote := ← field _ "quote_asset_reserve"
      sqrtK := ← field _ "sqrt_k"
      peg := ← field _ "peg_multiplier"
      netBase := ← field _ "net_base_asset_amount"
      terminalQuote := ← field _ "terminal_quote_asset_reserve"
      exchangeFees := ← field _ "total_exchange_fee"
      feePool := ← field _ "total_fee_minus_distributions"
      baseSpread := ← field _ "base_spread"
      intensity := ← field _ "curve_update_intensity"
      longCostBasis := ← field _ "quote_asset_amount_long"
      shortCostBasis := ← field _ "quote_asset_amount_short" }

instance : Coded Market where
  encode market := .record [("market_index", encode market.index), ("amm", encode market.curve)]
  decode := format.record do
    return {
      index := ← field _ "market_index"
      curve := ← field _ "amm" }

instance : Coded OracleReading where
  encode reading :=
    .record [("price", encode reading.price), ("confidence", encode reading.confidence)]
  decode := format.record do
    return {
      price := ← field _ "price"
      confidence := ← field _ "confidence" }

instance : Coded RepegDecision where
  encode decision :=
    .record [("cost", encode decision.cost),
      ("k_numerator", encode decision.numerator),
      ("k_denominator", encode decision.denominator),
      ("new_peg", encode decision.peg)]
  decode := format.record do
    return {
      cost := ← field _ "cost"
      numerator := ← field _ "k_numerator"
      denominator := ← field _ "k_denominator"
      peg := ← field _ "new_peg" }

instance : Coded Listing where
  encode listing :=
    .record [("symbol", encode listing.symbol),
      ("market_index", encode listing.index),
      ("oracle_address", encode listing.oracleAddress),
      ("mint_address", encode listing.mintAddress),
      ("oracle_source", encode listing.oracleSource),
      ("precision", encode listing.precision),
      ("precision_exponent", encode listing.exponent),
      ("venue_ref", encode listing.venue)]
  decode := format.record (Listing.fields format)

instance : Coded EngineSettings where
  encode settings := .record [("spread_policy", encode settings.policy)]
  decode := format.record (EngineSettings.fields format)

instance : Coded Settings where
  encode settings :=
    .record [("engine", encode settings.engine), ("markets", encode settings.markets)]
  decode := format.record (Settings.fields format)

end PerpetualCurve.Json
