import PerpetualCurve.Number.Bounded

/-!
# Sides and directions

The tags a trade and a quote are described with, each with the word that stands for it in text.
-/

namespace PerpetualCurve

/-- The side of a position. In a quote, `long` is the ask and `short` the bid. -/
inductive Side where
  | long
  | short
  deriving DecidableEq, Inhabited

/-- The reserve an amount is counted in. -/
inductive Asset where
  | base
  | quote
  deriving DecidableEq

/-- Whether a swap adds to its input reserve or takes from it. -/
inductive Flow where
  | add
  | remove
  deriving DecidableEq

/-- How the spread values the curve's exposure. -/
inductive SpreadPolicy where
  /-- Profit of the inventory measured against its cost basis. -/
  | costBasis
  /-- Mark value against terminal value, with the oracle's confidence on top. -/
  | markToTerminal
  deriving DecidableEq, Inhabited

namespace Side

/-- The other side. -/
def opposite : Side → Side
  | long => short
  | short => long

/-- The side that closes a net base position. -/
def closing (netBase : SignedAmount) : Side :=
  if 0 < netBase.toInt then short else long

end Side

namespace Flow

/-- The effect on the reserve `asset` of trading on `side`: buying takes base out, selling takes
quote out, all else adds. -/
def ofTrade : Asset → Side → Flow
  | .base, .long => remove
  | .quote, .short => remove
  | _, _ => add

end Flow

/-- A type of tags, each with the word that stands for it in text. -/
class Tagged (α : Type) where
  /-- All tags. -/
  tags : List α
  word : α → String

/-- The tag a word stands for. -/
def Tagged.ofWord? {α : Type} [Tagged α] (w : String) : Option α :=
  (tags : List α).find? (word · == w)

instance : Tagged Side where
  tags := [.long, .short]
  word
    | .long => "long"
    | .short => "short"

instance : Tagged Asset where
  tags := [.base, .quote]
  word
    | .base => "base"
    | .quote => "quote"

instance : Tagged Flow where
  tags := [.add, .remove]
  word
    | .add => "add"
    | .remove => "remove"

instance : Tagged SpreadPolicy where
  tags := [.costBasis, .markToTerminal]
  word
    | .costBasis => "cost_basis"
    | .markToTerminal => "mark_to_terminal"

end PerpetualCurve
