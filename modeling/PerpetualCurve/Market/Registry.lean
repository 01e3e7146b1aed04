import PerpetualCurve.Market.Listing
import PerpetualCurve.Text.Space

/-!
# The market registry

A registry holds listings that agree with each other: every oracle has an address, every precision
is the power of ten its exponent says, and no two markets share an index or a symbol.
-/

namespace PerpetualCurve

/-- Why a list of markets is no registry. -/
inductive RegistryError where
  | missingOracle (symbol : String)
  | exponentTooLarge (symbol : String) (exponent : Unsigned 32)
  | precisionMismatch (symbol : String) (precision : Unsigned 64) (exponent : Unsigned 32)
  | duplicateIndex (index : Unsigned 64)
  | duplicateSymbol (symbol : String)
  deriving DecidableEq

/-- The text that reports a fault of a list of markets. -/
def RegistryError.message : RegistryError → String
  | missingOracle symbol => s!"Market {symbol} has no oracle address"
  | exponentTooLarge symbol exponent =>
    s!"Market {symbol} precision exponent {exponent.toNat} overflows u64"
  | precisionMismatch symbol precision exponent =>
    s!"Market {symbol} precision {precision.toNat} does not match 10^{exponent.toNat}"
  | duplicateIndex index => s!"Duplicate market index {index.toNat}"
  | duplicateSymbol symbol => s!"Duplicate market symbol {symbol}"

/-- The power of ten a precision has to be. From `10 ^ 20` on it exceeds 64 digits. -/
def powerOfTen? (exponent : Unsigned 32) : Option Nat :=
  if exponent.toNat < 20 then some (10 ^ exponent.toNat) else none

namespace Listing

/-- The first fault of a listing behind the listings `earlier`. -/
def fault? (earlier : List Listing) (listing : Listing) : Option RegistryError :=
  if Text.isBlank listing.oracleAddress then some (.missingOracle listing.symbol)
  else
    match powerOfTen? listing.exponent with
    | none => some (.exponentTooLarge listing.symbol listing.exponent)
    | some power =>
      if listing.precision.toNat ≠ power then
        some (.precisionMismatch listing.symbol listing.precision listing.exponent)
      else if earlier.any (·.index = listing.index) then some (.duplicateIndex listing.index)
      else if earlier.any (·.symbol = listing.symbol) then some (.duplicateSymbol listing.symbol)
      else none

/-- The first fault of a list of listings, behind the listings `earlier`. -/
def firstFault? (earlier : List Listing) : List Listing → Option RegistryError
  | [] => none
  | listing :: rest =>
    match listing.fault? earlier with
    | some e => some e
    | none => firstFault? (earlier ++ [listing]) rest

/-- The positions of listings by a key of theirs, on top of those known of the `passed` listings
before them. Where a key has several positions, the one in front counts. -/
def positions {κ : Type} (key : Listing → κ) (known : List (κ × Nat)) (passed : Nat) :
    List Listing → List (κ × Nat)
  | [] => known
  | listing :: rest => positions key ((key listing, passed) :: known) (passed + 1) rest

end Listing

/-- Listings that agree with each other, in the order of their declaration. -/
structure Registry where
  markets : List Listing
  faultless : Listing.firstFault? [] markets = none

namespace Registry

/-- The registry of a list of markets, or the first fault of the list. -/
def ofList (markets : List Listing) : Except RegistryError Registry :=
  match h : Listing.firstFault? [] markets with
  | none => .ok ⟨markets, h⟩
  | some e => .error e

/-- The number of markets. -/
def size (registry : Registry) : Nat := registry.markets.length

/-- Whether there is no market. -/
def isEmpty (registry : Registry) : Bool := registry.markets.isEmpty

/-- The market with a given key, at the position that is known for it. -/
def lookup? {κ : Type} [DecidableEq κ] (registry : Registry) (key : Listing → κ) (k : κ) :
    Option Listing :=
  ((Listing.positions key [] 0 registry.markets).lookup k).bind (registry.markets[·]?)

/-- The market with a given index. -/
def get? (registry : Registry) (index : Unsigned 64) : Option Listing :=
  registry.lookup? (·.index) index

/-- The market with a given symbol. -/
def getSymbol? (registry : Registry) (symbol : String) : Option Listing :=
  registry.lookup? (·.symbol) symbol

/-- A market with a feed of the network `pyth`, ten decimals and a venue name derived from its
symbol. -/
def builtinListing (symbol : String) (index : Unsigned 64) (oracle mint : String) : Listing where
  symbol
  index
  oracleAddress := oracle
  mintAddress := mint
  oracleSource := .pyth
  precision := ⟨10 ^ 10, by decide⟩
  exponent := ⟨10, by decide⟩
  venue := some (symbol ++ "-PERP")

/-- The markets that are known without any configuration. -/
def builtin : List Listing :=
  [builtinListing "SOL" 0 "J83w4HKfqxwcq3BEMMkPFSppX3gqekLyLJBexebFVkix"
      "So11111111111111111111111111111111111111112",
    builtinListing "BTC" ⟨1, by decide⟩ "HovQMDrbAgAYPCmHVSrezcSmkMtXSSUsLDFANExrZh2J"
      "3NZ9JMVBmGAqocybic2c7LQCJScmgsAZ6vQqTDzcqmJh",
    builtinListing "ETH" ⟨2, by decide⟩ "EdVCmQ9FSPcVe5YySXDPCRmc8aDQLKJ9xvYBMZPie1Vw"
      "7vfCXTUXx5WJV5JADk17DUJ4ksgau7utNKj4b963voxs"]

end Registry

end PerpetualCurve
