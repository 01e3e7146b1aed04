import PerpetualCurve.Curve.Basic
import PerpetualCurve.Curve.Price
import PerpetualCurve.Curve.Swap
import PerpetualCurve.Engine
import PerpetualCurve.Error
import PerpetualCurve.Json.Coded
import PerpetualCurve.Json.Token
import PerpetualCurve.Json.Value
import PerpetualCurve.Market.Basic
import PerpetualCurve.Market.Listing
import PerpetualCurve.Market.Registry
import PerpetualCurve.Number.Bounded
import PerpetualCurve.Number.Decimal
import PerpetualCurve.Number.Double
import PerpetualCurve.Number.FixedPoint
import PerpetualCurve.Number.Power
import PerpetualCurve.Number.Rounding
import PerpetualCurve.Oracle
import PerpetualCurve.Peg.Cost
import PerpetualCurve.Peg.Repeg
import PerpetualCurve.Peg.Target
import PerpetualCurve.Proofs.AtMark
import PerpetualCurve.Proofs.Budget
import PerpetualCurve.Proofs.Causes
import PerpetualCurve.Proofs.Closest
import PerpetualCurve.Proofs.Closing
import PerpetualCurve.Proofs.Cost
import PerpetualCurve.Proofs.CostBasis
import PerpetualCurve.Proofs.Crossing
import PerpetualCurve.Proofs.Decimal
import PerpetualCurve.Proofs.Depth
import PerpetualCurve.Proofs.Envelope
import PerpetualCurve.Proofs.Exposure
import PerpetualCurve.Proofs.Failure
import PerpetualCurve.Proofs.Guarded
import PerpetualCurve.Proofs.Json.Coded
import PerpetualCurve.Proofs.Json.Token
import PerpetualCurve.Proofs.Json.Value
import PerpetualCurve.Proofs.Limit
import PerpetualCurve.Proofs.Lookup
import PerpetualCurve.Proofs.Monotone
import PerpetualCurve.Proofs.Nearest
import PerpetualCurve.Proofs.Outcome
import PerpetualCurve.Proofs.PegPath
import PerpetualCurve.Proofs.Price
import PerpetualCurve.Proofs.Quote
import PerpetualCurve.Proofs.Reader
import PerpetualCurve.Proofs.Record
import PerpetualCurve.Proofs.Registry
import PerpetualCurve.Proofs.Remainder
import PerpetualCurve.Proofs.Repeg
import PerpetualCurve.Proofs.Retreat
import PerpetualCurve.Proofs.RoundTrip
import PerpetualCurve.Proofs.Run
import PerpetualCurve.Proofs.Settings.Agreement
import PerpetualCurve.Proofs.Settings.Load
import PerpetualCurve.Proofs.Settings.Merge
import PerpetualCurve.Proofs.Settings.Precedence
import PerpetualCurve.Proofs.Settings.Source
import PerpetualCurve.Proofs.Settings.Stable
import PerpetualCurve.Proofs.Settled
import PerpetualCurve.Proofs.Shift
import PerpetualCurve.Proofs.Shrink
import PerpetualCurve.Proofs.Skew
import PerpetualCurve.Proofs.Split
import PerpetualCurve.Proofs.Spread
import PerpetualCurve.Proofs.SwapRules
import PerpetualCurve.Proofs.Swaps
import PerpetualCurve.Proofs.Target
import PerpetualCurve.Proofs.Terminal
import PerpetualCurve.Proofs.Toml.Distinct
import PerpetualCurve.Proofs.TurnedOff
import PerpetualCurve.Proofs.Widening
import PerpetualCurve.Quote.Reserves
import PerpetualCurve.Quote.Size
import PerpetualCurve.Quote.Spread
import PerpetualCurve.Record
import PerpetualCurve.Scale
import PerpetualCurve.Settings.Basic
import PerpetualCurve.Settings.Expansion
import PerpetualCurve.Settings.Host
import PerpetualCurve.Settings.Layer
import PerpetualCurve.Settings.Load
import PerpetualCurve.Settings.Path
import PerpetualCurve.Side
import PerpetualCurve.Text.Case
import PerpetualCurve.Text.Hex
import PerpetualCurve.Text.Letter
import PerpetualCurve.Text.Reader
import PerpetualCurve.Text.Space
import PerpetualCurve.Toml.Datetime
import PerpetualCurve.Toml.Document
import PerpetualCurve.Toml.Number
import PerpetualCurve.Toml.Quoted
import PerpetualCurve.Toml.Tree
import PerpetualCurve.Toml.Value
