import PerpetualCurve.Engine
import PerpetualCurve.Market.Listing

/-!
# Settings

What is configured: the spread policy of the engine and the markets it prices.
-/

namespace PerpetualCurve

/-- The settings of the pricing engine. -/
@[ext] structure EngineSettings where
  policy : SpreadPolicy := .costBasis
  deriving DecidableEq, Inhabited

/-- The engine with the costs of a constant-product curve and the configured policy. -/
def EngineSettings.engine (settings : EngineSettings) : Engine := { policy := settings.policy }

/-- All settings. -/
@[ext] structure Settings where
  engine : EngineSettings := {}
  markets : List Listing := []
  deriving DecidableEq, Inhabited

/-- The fields of the engine settings. -/
def EngineSettings.fields {V : Type} (format : Format V) : Fields V EngineSettings := do
  return { policy := ← .withDefault "spread_policy" format.tag .costBasis }

/-- The fields of the settings. -/
def Settings.fields {V : Type} (format : Format V) : Fields V Settings := do
  let engine ← .withDefault "engine" (format.record (EngineSettings.fields format)) {}
  let markets ←
    .withDefault "markets" (format.listOf (format.record (Listing.fields format))) []
  return { engine, markets }

end PerpetualCurve
