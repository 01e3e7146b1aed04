import Mathlib.Tactic.Linarith
import Mathlib.Tactic.Ring
import PerpetualCurve.Proofs.Shift
import PerpetualCurve.Proofs.Spread

/-!
# How far a quote retreats

Where the oracle lies beyond a quote, the half spread is at least the distance between mark and
oracle. The quote reserve is shifted by half of it, and as the base reserve is rebuilt the price
moves by the square of the shift. The square of `1 + x` is more than `1 + 2x`, so the ask retreats
by the distance or more. But so is the square of `1 - x` more than `1 - 2x`: the bid stays short of
the distance, by a part that grows with its square.
-/

namespace PerpetualCurve

/-- Prices compare as the reserves do, up to the unit the higher one was rounded down by. -/
theorem priceOf_mul_le {low high : Reserves} {peg lowPrice highPrice : Amount}
    (hlow : priceOf low.base low.quote peg = .ok lowPrice)
    (hhigh : priceOf high.base high.quote peg = .ok highPrice) (hbase : high.base.toNat ≠ 0) :
    lowPrice.toNat * (low.base.toNat * high.quote.toNat) ≤
      (highPrice.toNat + 1) * (high.base.toNat * low.quote.toNat) := by
  calc lowPrice.toNat * (low.base.toNat * high.quote.toNat)
      = lowPrice.toNat * low.base.toNat * high.quote.toNat := (Nat.mul_assoc _ _ _).symm
    _ ≤ Scale.priceToPeg * low.quote.toNat * peg.toNat * high.quote.toNat :=
        Nat.mul_le_mul_right _ (priceOf_mul_base_le hlow)
    _ = Scale.priceToPeg * high.quote.toNat * peg.toNat * low.quote.toNat := by ring
    _ ≤ (highPrice.toNat + 1) * high.base.toNat * low.quote.toNat :=
        Nat.mul_le_mul_right _ (Nat.le_of_lt (priceOf_bracket hhigh hbase).2)
    _ = (highPrice.toNat + 1) * (high.base.toNat * low.quote.toNat) := Nat.mul_assoc _ _ _

/-! ## Two square laws

Prices `m` and `p` of reserves `b`, `q` and `c`, `r`, the latter shifted by the share `d / (2 * S)`.
-/

section Numbers

variable {p m b c q r k d S : Int}

/-- The bid: the quote reserve loses the share, up to one unit, and the base reserve makes up for
it, up to less than one of its own units. -/
theorem bid_square_of_shift (hS : 0 ≤ S) (hp : 0 ≤ p) (hm : 0 ≤ m) (hb : 0 ≤ b) (hq : 0 ≤ q)
    (hr : 0 ≤ r) (cross : p * (c * q) ≤ (m + 1) * (b * r)) (rest : b * q ≤ c * r + q)
    (shift : 2 * S * r + q * d ≤ q * (2 * S + 1) + 2 * S) :
    p * (b - 1) * (2 * S * q) ^ 2 ≤ (m + 1) * b * (q * (2 * S + 1 - d) + 2 * S) ^ 2 := by
  have rebuilt : b * q - q ≤ c * r := by linarith
  have shifted : 2 * S * r ≤ q * (2 * S + 1 - d) + 2 * S := by linarith
  calc p * (b - 1) * (2 * S * q) ^ 2
      = p * (b * q - q) * (q * (2 * S) ^ 2) := by ring
    _ ≤ p * (c * r) * (q * (2 * S) ^ 2) := by gcongr
    _ = p * (c * q) * (r * (2 * S) ^ 2) := by ring
    _ ≤ (m + 1) * (b * r) * (r * (2 * S) ^ 2) := by gcongr
    _ = (m + 1) * b * (2 * S * r) ^ 2 := by ring
    _ ≤ (m + 1) * b * (q * (2 * S + 1 - d) + 2 * S) ^ 2 := by gcongr

/-- The ask: the quote reserve gains the share, up to one unit, and the reserves do not leave the
depth. -/
theorem ask_square_of_shift (hp : 0 ≤ p) (hm : 0 ≤ m) (hb : 0 < b) (hq : 0 ≤ q) (hr : 0 ≤ r)
    (cross : m * (b * r) ≤ (p + 1) * (c * q)) (within : c * r ≤ k) (below : k ≤ b * (q + 1))
    (shift : q * (2 * S + d) ≤ 2 * S * r + 2 * S + q)
    (nonneg : 0 ≤ q * (2 * S + d - 1) - 2 * S) :
    m * (q * (2 * S + d - 1) - 2 * S) ^ 2 ≤ (p + 1) * (2 * S) ^ 2 * (q * (q + 1)) := by
  have rebuilt : c * r ≤ b * (q + 1) := Int.le_trans within below
  have shifted : q * (2 * S + d - 1) - 2 * S ≤ 2 * S * r := by linarith
  apply le_of_mul_le_mul_left _ hb
  calc b * (m * (q * (2 * S + d - 1) - 2 * S) ^ 2)
      ≤ b * (m * (2 * S * r) ^ 2) := by gcongr
    _ = m * (b * r) * (r * (2 * S) ^ 2) := by ring
    _ ≤ (p + 1) * (c * q) * (r * (2 * S) ^ 2) := by gcongr
    _ = (p + 1) * (2 * S) ^ 2 * (q * (c * r)) := by ring
    _ ≤ (p + 1) * (2 * S) ^ 2 * (q * (b * (q + 1))) := by gcongr
    _ = b * ((p + 1) * (2 * S) ^ 2 * (q * (q + 1))) := by ring

-- Below, `S` is written out as the spread scale, so that the linear steps see its value.

/-- Large reserves are cancelled from the square law of the bid, each at the cost of a part in
`10 ^ 12`. -/
theorem bid_square_cancel (hp : 0 ≤ p) (hb : 10 ^ 12 ≤ b) (hq : 10 ^ 12 ≤ q) (d_le : d ≤ 2000001)
    (hm : 0 ≤ m)
    (square : p * (b - 1) * (2 * 1000000 * q) ^ 2 ≤
      (m + 1) * b * (q * (2 * 1000000 + 1 - d) + 2 * 1000000) ^ 2) :
    p * (10 ^ 12 - 1) * 2000000 ^ 2 * 10 ^ 12 ≤
      (m + 1) * (10 ^ 12 * (2000001 - d) + 2000000) ^ 2 := by
  have wide : 10 ^ 12 * (q * (2000001 - d) + 2000000) ≤
      q * (10 ^ 12 * (2000001 - d) + 2000000) := by linarith
  have deep : (10 ^ 12 - 1) * b ≤ 10 ^ 12 * (b - 1) := by linarith
  have nonneg : 0 ≤ q * (2000001 - d) := mul_nonneg (by linarith) (by linarith)
  have reserves_pos : 0 < b * q ^ 2 * 10 ^ 12 := by positivity
  apply le_of_mul_le_mul_right _ reserves_pos
  calc p * (10 ^ 12 - 1) * 2000000 ^ 2 * 10 ^ 12 * (b * q ^ 2 * 10 ^ 12)
      = p * ((10 ^ 12 - 1) * b) * ((2000000 * q) ^ 2 * (10 ^ 12) ^ 2) := by ring
    _ ≤ p * (10 ^ 12 * (b - 1)) * ((2000000 * q) ^ 2 * (10 ^ 12) ^ 2) := by gcongr
    _ = p * (b - 1) * (2 * 1000000 * q) ^ 2 * (10 ^ 12) ^ 3 := by ring
    _ ≤ (m + 1) * b * (q * (2 * 1000000 + 1 - d) + 2 * 1000000) ^ 2 * (10 ^ 12) ^ 3 := by gcongr
    _ = (m + 1) * b * 10 ^ 12 * (10 ^ 12 * (q * (2000001 - d) + 2000000)) ^ 2 := by ring
    _ ≤ (m + 1) * b * 10 ^ 12 * (q * (10 ^ 12 * (2000001 - d) + 2000000)) ^ 2 := by gcongr
    _ = (m + 1) * (10 ^ 12 * (2000001 - d) + 2000000) ^ 2 * (b * q ^ 2 * 10 ^ 12) := by ring

/-- What the roundings of reserves and mark add to the square is less than seven spread scales. -/
theorem bid_slack (one_le : 1 ≤ d) (d_le : d ≤ 2000001) :
    2000001 * (10 ^ 12 * (2000001 - d) + 2000000) ^ 2 ≤
      2000000 * ((2000000 - d) ^ 2 + 7000000) * (10 ^ 12 * (10 ^ 12 - 1)) := by
  have convex := mul_nonneg (sub_nonneg.2 one_le) (sub_nonneg.2 d_le)
  nlinarith

/-- Large reserves and a mark of two spread scales leave the bid below the square of the share. -/
theorem bid_below_square (hp : 0 ≤ p) (hb : 10 ^ 12 ≤ b) (hq : 10 ^ 12 ≤ q) (one_le : 1 ≤ d)
    (d_le : d ≤ 2000001) (hm : 2000000 ≤ m)
    (square : p * (b - 1) * (2 * 1000000 * q) ^ 2 ≤
      (m + 1) * b * (q * (2 * 1000000 + 1 - d) + 2 * 1000000) ^ 2) :
    p * (2 * 1000000) ^ 2 ≤ m * ((2 * 1000000 - d) ^ 2 + 7 * 1000000) := by
  have cancelled := bid_square_cancel hp hb hq d_le (by linarith) square
  -- the mark was rounded down by less than a unit, which is little beside two spread scales
  have unit : 2000000 * (m + 1) ≤ m * 2000001 := by linarith
  have slack := bid_slack one_le d_le
  have scale_pos : (0 : Int) < 2000000 * (10 ^ 12 * (10 ^ 12 - 1)) := by norm_num
  apply le_of_mul_le_mul_right _ scale_pos
  calc p * (2 * 1000000) ^ 2 * (2000000 * (10 ^ 12 * (10 ^ 12 - 1)))
      = 2000000 * (p * (10 ^ 12 - 1) * 2000000 ^ 2 * 10 ^ 12) := by ring
    _ ≤ 2000000 * ((m + 1) * (10 ^ 12 * (2000001 - d) + 2000000) ^ 2) := by gcongr
    _ = 2000000 * (m + 1) * (10 ^ 12 * (2000001 - d) + 2000000) ^ 2 := by ring
    _ ≤ m * 2000001 * (10 ^ 12 * (2000001 - d) + 2000000) ^ 2 := by gcongr
    _ = m * (2000001 * (10 ^ 12 * (2000001 - d) + 2000000) ^ 2) := by ring
    _ ≤ m * (2000000 * ((2000000 - d) ^ 2 + 7000000) * (10 ^ 12 * (10 ^ 12 - 1))) := by gcongr
    _ = m * ((2 * 1000000 - d) ^ 2 + 7 * 1000000) * (2000000 * (10 ^ 12 * (10 ^ 12 - 1))) := by
        ring

/-- Up to a thousandth, the square of the distance is within the two millionths left to it. -/
theorem bid_linear_of_square (hm : 0 ≤ m) (one_le : 1 ≤ d) (d_le : d ≤ 1000)
    (below : p * (2 * 1000000) ^ 2 ≤ m * ((2 * 1000000 - d) ^ 2 + 7 * 1000000)) :
    p * 1000000 ≤ m * (1000000 - d + 2) := by
  have small : d ^ 2 ≤ 1000 ^ 2 := by gcongr
  have scale_pos : (0 : Int) < 4 * 1000000 := by norm_num
  apply le_of_mul_le_mul_right _ scale_pos
  calc p * 1000000 * (4 * 1000000)
      = p * (2 * 1000000) ^ 2 := by ring
    _ ≤ m * ((2 * 1000000 - d) ^ 2 + 7 * 1000000) := below
    _ ≤ m * ((1000000 - d + 2) * (4 * 1000000)) := by
        gcongr
        linarith
    _ = m * (1000000 - d + 2) * (4 * 1000000) := by ring

/-- The square of `1 + x` is more than `1 + 2 * x`, and a large quote reserve leaves the roundings
less than the millionth beyond that. -/
theorem ask_slack (hq : 10 ^ 12 ≤ q) :
    (1000000 + d - 2) * (4000000 * (q * (q + 1))) ≤ (q * (2000000 + d - 1) - 2000000) ^ 2 := by
  have convex : 0 ≤ (1000000 * (d - 1) - 4) ^ 2 := sq_nonneg _
  have covered : 4000000 * (3000000 + 2 * (d - 1) - 1) ≤ q * (4000000 + (d - 1) ^ 2) := by
    calc 4000000 * (3000000 + 2 * (d - 1) - 1)
        ≤ 10 ^ 12 * (4000000 + (d - 1) ^ 2) := by linarith
      _ ≤ q * (4000000 + (d - 1) ^ 2) := by gcongr
  have scaled : 0 ≤ q * (q * (4000000 + (d - 1) ^ 2) - 4000000 * (3000000 + 2 * (d - 1) - 1)) :=
    mul_nonneg (by linarith) (by linarith)
  linarith

/-- A large quote reserve turns the square law of the ask into a linear one. -/
theorem ask_linear_of_square (hm : 0 ≤ m) (hq : 10 ^ 12 ≤ q)
    (square : m * (q * (2 * 1000000 + d - 1) - 2 * 1000000) ^ 2 ≤
      (p + 1) * (2 * 1000000) ^ 2 * (q * (q + 1))) :
    m * (1000000 + d - 2) ≤ p * 1000000 + 1000000 := by
  have slack := ask_slack (d := d) hq
  have scale_pos : 0 < 4000000 * (q * (q + 1)) := by positivity
  apply le_of_mul_le_mul_right _ scale_pos
  calc m * (1000000 + d - 2) * (4000000 * (q * (q + 1)))
      = m * ((1000000 + d - 2) * (4000000 * (q * (q + 1)))) := by ring
    _ ≤ m * (q * (2000000 + d - 1) - 2000000) ^ 2 := by gcongr
    _ = m * (q * (2 * 1000000 + d - 1) - 2 * 1000000) ^ 2 := by ring
    _ ≤ (p + 1) * (2 * 1000000) ^ 2 * (q * (q + 1)) := square
    _ = (p * 1000000 + 1000000) * (4000000 * (q * (q + 1))) := by ring

end Numbers

namespace Curve

variable {curve : Curve} {side : Side} {oracle : OracleReading} {policy : SpreadPolicy}
  {half spread mark price : Amount} {gap : SignedAmount} {reserves : Reserves}

/-! ## Shifts -/

/-- The bid takes half the half spread out of the quote reserve, up to one unit, and the base
reserve beside it makes up for this, up to the rest of its division. -/
theorem bidding_shift (h : curve.spreadReserves .short oracle policy = .ok reserves)
    (rebuilt : curve.QuoteRebuilt curve.sqrtK) :
    ∃ spread, curve.halfSpread .short oracle policy = .ok spread ∧
      2 * Scale.spread * reserves.quote.toNat + curve.quote.toNat * spread.toNat ≤
        curve.quote.toNat * (2 * Scale.spread + 1) + 2 * Scale.spread ∧
      curve.base.toNat * curve.quote.toNat ≤
        reserves.base.toNat * reserves.quote.toNat + curve.quote.toNat := by
  obtain ⟨spread, half, hspread, hhalf, ⟨zero, rfl⟩ | ⟨-, hshifted, hne, hbase⟩⟩ :=
    spreadReserves_eq_ok_iff.1 h
  · refine ⟨spread, hspread, ?_, Nat.le_add_right _ _⟩
    have narrow : curve.quote.toNat * spread.toNat ≤ curve.quote.toNat * 1 :=
      Nat.mul_le_mul_left _ (by omega)
    linarith
  · refine ⟨spread, hspread, ?_, ?_⟩
    · obtain ⟨divides, -, hquote⟩ := shiftedQuote_short_eq_ok_iff.1 hshifted
      have lost := curve.mul_half_lt divides
      have halved : curve.quote.toNat * spread.toNat ≤
          curve.quote.toNat * (2 * half.toNat + 1) := Nat.mul_le_mul_left _ (by omega)
      have moved : 2 * Scale.spread * curve.quote.toNat =
          2 * Scale.spread * reserves.quote.toNat + 2 * (curve.quoteShift half * Scale.spread) := by
        rw [← hquote]
        ring
      linarith
    · obtain ⟨-, -, hquote⟩ := shiftedQuote_short_eq_ok_iff.1 hshifted
      have cut : curve.sqrtK.toNat ^ 2 < reserves.quote.toNat * (reserves.base.toNat + 1) := by
        rw [hbase]
        exact Nat.lt_mul_div_succ _ (Nat.pos_of_ne_zero hne)
      have below := Reserves.OnDepth.mul_le (.inl rebuilt)
      rw [Nat.mul_succ, Nat.mul_comm] at cut
      omega

/-- The ask adds half the half spread to the quote reserve, up to one unit, and the reserves stay
within the depth. -/
theorem asking_shift (h : curve.spreadReserves .long oracle policy = .ok reserves)
    (rebuilt : curve.QuoteRebuilt curve.sqrtK) :
    ∃ spread, curve.halfSpread .long oracle policy = .ok spread ∧
      curve.quote.toNat * (2 * Scale.spread + spread.toNat) ≤
        2 * Scale.spread * reserves.quote.toNat + 2 * Scale.spread + curve.quote.toNat ∧
      reserves.base.toNat * reserves.quote.toNat ≤ curve.sqrtK.toNat ^ 2 := by
  obtain ⟨spread, half, hspread, hhalf, ⟨zero, rfl⟩ | ⟨-, hshifted, hne, hbase⟩⟩ :=
    spreadReserves_eq_ok_iff.1 h
  · refine ⟨spread, hspread, ?_, Reserves.OnDepth.mul_le (.inl rebuilt)⟩
    have narrow : curve.quote.toNat * spread.toNat ≤ curve.quote.toNat * 1 :=
      Nat.mul_le_mul_left _ (by omega)
    linarith
  · refine ⟨spread, hspread, ?_, ?_⟩
    · obtain ⟨divides, hquote⟩ := shiftedQuote_long_eq_ok_iff.1 hshifted
      have lost := curve.mul_half_lt divides
      have halved : curve.quote.toNat * spread.toNat ≤
          curve.quote.toNat * (2 * half.toNat + 1) := Nat.mul_le_mul_left _ (by omega)
      rw [hquote]
      linarith
    · rw [hbase]
      exact Nat.div_mul_le_self _ _

/-- Reserves move only by a half spread of at most twice the price, up to its halving. -/
theorem halfSpread_le (h : curve.spreadReserves side oracle policy = .ok reserves)
    (hspread : curve.halfSpread side oracle policy = .ok spread) :
    spread.toNat ≤ 2 * Scale.spread + 1 := by
  obtain ⟨spread', half, hspread', hhalf, ⟨zero, -⟩ | ⟨-, hshifted, -⟩⟩ :=
    spreadReserves_eq_ok_iff.1 h
  all_goals cases hspread.symm.trans hspread'
  · omega
  · have divides : Scale.spread / half.toNat ≠ 0 := by
      cases side with
      | long => exact (shiftedQuote_long_eq_ok_iff.1 hshifted).1
      | short => exact (shiftedQuote_short_eq_ok_iff.1 hshifted).1
    have half_le : half.toNat ≤ Scale.spread := by
      by_contra larger
      exact divides (Nat.div_eq_of_lt (Nat.lt_of_not_le larger))
    omega

/-! ## Prices -/

/-- The bid has a price, and the price moves down at least by the square of half the half spread, up
to rounding. -/
theorem bid_square (rebuilt : curve.QuoteRebuilt curve.sqrtK)
    (hmark : curve.markPrice = .ok mark) {d : Nat}
    (h : curve.spreadReserves .short oracle policy = .ok reserves)
    (retreats : ∀ spread, curve.halfSpread .short oracle policy = .ok spread → d ≤ spread.toNat) :
    ∃ price, priceOf reserves.base reserves.quote curve.peg = .ok price ∧
      (price.toNat : Int) * (curve.base.toNat - 1) *
          (2 * Scale.spread * curve.quote.toNat) ^ 2 ≤
        (mark.toNat + 1) * curve.base.toNat *
          (curve.quote.toNat * (2 * Scale.spread + 1 - d) + 2 * Scale.spread) ^ 2 := by
  obtain ⟨price, hprice, -⟩ := (underprices_bidding h rebuilt).priceOf_le hmark
  obtain ⟨spread, hspread, moved, rest⟩ := bidding_shift h rebuilt
  have cross := priceOf_mul_le hprice hmark (Nat.ne_of_gt rebuilt.base_pos)
  have shift : 2 * Scale.spread * reserves.quote.toNat + curve.quote.toNat * d ≤
      curve.quote.toNat * (2 * Scale.spread + 1) + 2 * Scale.spread := by
    have least := Nat.mul_le_mul_left curve.quote.toNat (retreats spread hspread)
    omega
  refine ⟨price, hprice, bid_square_of_shift (c := reserves.base.toNat)
    (r := reserves.quote.toNat) ?_ ?_ ?_ ?_ ?_ ?_ ?cross ?rest ?shift⟩
  case cross => exact_mod_cast cross
  case rest => exact_mod_cast rest
  case shift => exact_mod_cast shift
  all_goals exact Int.natCast_nonneg _

/-- The price of an ask moves up at least by the square of half the half spread, up to rounding, if
some base is left to price. -/
theorem ask_square (rebuilt : curve.QuoteRebuilt curve.sqrtK)
    (hmark : curve.markPrice = .ok mark) {d : Nat} (one_le : 1 ≤ d)
    (hbase : 2 ≤ curve.base.toNat) (hquote : Scale.spread ≤ curve.quote.toNat)
    (h : curve.spreadReserves .long oracle policy = .ok reserves)
    (retreats : ∀ spread, curve.halfSpread .long oracle policy = .ok spread → d ≤ spread.toNat)
    (hprice : priceOf reserves.base reserves.quote curve.peg = .ok price) :
    (mark.toNat : Int) * (curve.quote.toNat * (2 * Scale.spread + d - 1) - 2 * Scale.spread) ^ 2 ≤
      (price.toNat + 1) * (2 * Scale.spread) ^ 2 *
        (curve.quote.toNat * (curve.quote.toNat + 1)) := by
  have base_pos := (underprices_asking h rebuilt hbase hquote).base_pos
  obtain ⟨spread, hspread, moved, within⟩ := asking_shift h rebuilt
  have cross := priceOf_mul_le hmark hprice (Nat.ne_of_gt base_pos)
  have below : curve.sqrtK.toNat ^ 2 ≤ curve.base.toNat * (curve.quote.toNat + 1) :=
    Nat.le_of_lt rebuilt.lt_mul_succ
  have shift : curve.quote.toNat * (2 * Scale.spread + d) ≤
      2 * Scale.spread * reserves.quote.toNat + 2 * Scale.spread + curve.quote.toNat := by
    refine Nat.le_trans (Nat.mul_le_mul_left _ ?_) moved
    exact Nat.add_le_add_left (retreats spread hspread) _
  have nonneg : (0 : Int) ≤ curve.quote.toNat * (2 * Scale.spread + d - 1) - 2 * Scale.spread := by
    have one_le_quote : (1 : Int) ≤ curve.quote.toNat := by
      exact_mod_cast Nat.le_trans (by decide) hquote
    have one_le_distance : (1 : Int) ≤ d := by exact_mod_cast one_le
    have scale_nonneg : (0 : Int) ≤ Scale.spread := Int.natCast_nonneg _
    nlinarith
  refine ask_square_of_shift (b := curve.base.toNat) (c := reserves.base.toNat)
    (r := reserves.quote.toNat) (k := curve.sqrtK.toNat ^ 2) ?_ ?_ ?base_pos ?_ ?_ ?cross ?within
    ?below ?shift nonneg
  case base_pos => exact_mod_cast rebuilt.base_pos
  case cross => exact_mod_cast cross
  case within => exact_mod_cast within
  case below => exact_mod_cast below
  case shift => exact_mod_cast shift
  all_goals exact Int.natCast_nonneg _

/-- A distance between mark and oracle is a share of the mark, so there is a mark. -/
theorem base_pos_of_gap (hmark : curve.markPrice = .ok mark)
    (hgap : oracleMarkSpread mark oracle.price = .ok gap) : 0 < curve.base.toNat := by
  have mark_ne : mark.toNat ≠ 0 := by
    simp only [oracleMarkSpread, Outcome.bind_eq_ok_iff, Outcome.guarded_eq_ok_iff,
      Unsigned.toSigned_eq_ok_iff] at hgap
    obtain ⟨signed, hsigned, _, -, _, -, nonzero, -⟩ := hgap
    omega
  rcases priceOf_eq_ok_iff.1 hmark with ⟨-, rfl⟩ | ⟨base_ne, -⟩
  · exact absurd Unsigned.toNat_zero mark_ne
  · exact Nat.pos_of_ne_zero base_ne

/-- The bid retreats by the square of `1 - gap / 2`, which for large reserves and a small gap is at
most `1 - gap` up to two millionths. -/
theorem bid_retreats (spreads : curve.baseSpread.toNat ≠ 0) (on : curve.intensity.toNat ≠ 0)
    (rebuilt : curve.QuoteRebuilt curve.sqrtK) (hmark : curve.markPrice = .ok mark)
    (hgap : oracleMarkSpread mark oracle.price = .ok gap) (positive : 0 < gap.toInt)
    (h : curve.spreadReserves .short oracle policy = .ok reserves) :
    ∃ price, priceOf reserves.base reserves.quote curve.peg = .ok price ∧
      (price.toNat : Int) * (curve.base.toNat - 1) *
          (2 * Scale.spread * curve.quote.toNat) ^ 2 ≤
        (mark.toNat + 1) * curve.base.toNat *
          (curve.quote.toNat * (2 * Scale.spread + 1 - gap.toInt) + 2 * Scale.spread) ^ 2 ∧
      (10 ^ 12 ≤ curve.base.toNat → 10 ^ 12 ≤ curve.quote.toNat → 2 * Scale.spread ≤ mark.toNat →
        (price.toNat : Int) * (2 * Scale.spread) ^ 2 ≤
          mark.toNat * ((2 * Scale.spread - gap.toInt) ^ 2 + 7 * Scale.spread) ∧
        (gap.toInt ≤ 1000 →
          (price.toNat : Int) * Scale.spread ≤ mark.toNat * (Scale.spread - gap.toInt + 2))) := by
  have distance : (gap.toInt.natAbs : Int) = gap.toInt := Int.natAbs_of_nonneg (by omega)
  have reaches : ∀ spread, curve.halfSpread .short oracle policy = .ok spread →
      gap.toInt.natAbs ≤ spread.toNat :=
    fun _ => natAbs_le_halfSpread spreads on hmark hgap (by simpa [Side.retreats] using positive)
  obtain ⟨price, hprice, square⟩ := bid_square rebuilt hmark h reaches
  rw [distance] at square
  refine ⟨price, hprice, square, ?_⟩
  intro hbase hquote hlarge
  obtain ⟨spread, hspread, -⟩ := bidding_shift h rebuilt
  have gap_le : gap.toInt ≤ 2000001 := by
    have reached := reaches spread hspread
    have narrow : spread.toNat ≤ 2000001 := halfSpread_le h hspread
    omega
  have below := bid_below_square (Int.natCast_nonneg _) (by exact_mod_cast hbase)
    (by exact_mod_cast hquote) positive gap_le (by exact_mod_cast hlarge) square
  exact ⟨below, fun small => bid_linear_of_square (Int.natCast_nonneg _) positive small below⟩

/-- The ask retreats by the square of `1 - gap / 2`, which for large reserves is at least
`1 - gap`. -/
theorem ask_retreats (spreads : curve.baseSpread.toNat ≠ 0) (on : curve.intensity.toNat ≠ 0)
    (rebuilt : curve.QuoteRebuilt curve.sqrtK) (hmark : curve.markPrice = .ok mark)
    (hgap : oracleMarkSpread mark oracle.price = .ok gap) (negative : gap.toInt < 0)
    (hbase : 10 ^ 12 ≤ curve.base.toNat) (hquote : 10 ^ 12 ≤ curve.quote.toNat)
    (h : curve.spreadReserves .long oracle policy = .ok reserves)
    (hprice : priceOf reserves.base reserves.quote curve.peg = .ok price) :
    (mark.toNat : Int) * (Scale.spread + gap.toInt.natAbs - 2) ≤
      price.toNat * Scale.spread + Scale.spread := by
  have reaches : ∀ spread, curve.halfSpread .long oracle policy = .ok spread →
      gap.toInt.natAbs ≤ spread.toNat :=
    fun _ => natAbs_le_halfSpread spreads on hmark hgap (by simpa [Side.retreats] using negative)
  have one_le : 1 ≤ gap.toInt.natAbs := by omega
  have two_le_base : 2 ≤ curve.base.toNat := Nat.le_trans (by decide) hbase
  have scale_le_quote : Scale.spread ≤ curve.quote.toNat := Nat.le_trans (by decide) hquote
  have square := ask_square rebuilt hmark one_le two_le_base scale_le_quote h reaches hprice
  exact ask_linear_of_square (Int.natCast_nonneg _) (by exact_mod_cast hquote) square

/-- How far the quotes retreat for an oracle beyond them, where spreads are turned on. The bid has
a price, and it is at most the square of `1 - gap / 2` of the mark, up to the roundings. Large
reserves and a mark of two spread scales leave less than two millionths of the mark to those, and
then a bid for a gap of up to a thousandth reaches `1 - gap` but for two millionths. The ask reaches
its `1 - gap` for every gap. -/
theorem quotes_retreat (spreads : curve.baseSpread.toNat ≠ 0) (on : curve.intensity.toNat ≠ 0)
    (canonical : curve.quote.toNat = curve.sqrtK.toNat ^ 2 / curve.base.toNat)
    (hmark : curve.markPrice = .ok mark)
    (hgap : oracleMarkSpread mark oracle.price = .ok gap) :
    (0 < gap.toInt → ∀ reserves, curve.spreadReserves .short oracle policy = .ok reserves →
      ∃ price, priceOf reserves.base reserves.quote curve.peg = .ok price ∧
        (price.toNat : Int) * (curve.base.toNat - 1) *
            (2 * Scale.spread * curve.quote.toNat) ^ 2 ≤
          (mark.toNat + 1) * curve.base.toNat *
            (curve.quote.toNat * (2 * Scale.spread + 1 - gap.toInt) + 2 * Scale.spread) ^ 2 ∧
        (10 ^ 12 ≤ curve.base.toNat → 10 ^ 12 ≤ curve.quote.toNat →
          2 * Scale.spread ≤ mark.toNat →
          (price.toNat : Int) * (2 * Scale.spread) ^ 2 ≤
            mark.toNat * ((2 * Scale.spread - gap.toInt) ^ 2 + 7 * Scale.spread) ∧
          (gap.toInt ≤ 1000 →
            (price.toNat : Int) * Scale.spread ≤
              mark.toNat * (Scale.spread - gap.toInt + 2)))) ∧
    (gap.toInt < 0 → 10 ^ 12 ≤ curve.base.toNat → 10 ^ 12 ≤ curve.quote.toNat →
      ∀ reserves, curve.spreadReserves .long oracle policy = .ok reserves →
      ∀ price, priceOf reserves.base reserves.quote curve.peg = .ok price →
        (mark.toNat : Int) * (Scale.spread + gap.toInt.natAbs - 2) ≤
          price.toNat * Scale.spread + Scale.spread) := by
  have rebuilt : curve.QuoteRebuilt curve.sqrtK := ⟨base_pos_of_gap hmark hgap, canonical⟩
  constructor
  · intro positive reserves h
    exact bid_retreats spreads on rebuilt hmark hgap positive h
  · intro negative hbase hquote reserves h price hprice
    exact ask_retreats spreads on rebuilt hmark hgap negative hbase hquote h hprice

/-- A balanced curve with spreads turned on and no position. -/
def deepPool : Curve where
  base := .ofNat 10000000000000000
  quote := .ofNat 10000000000000000
  sqrtK := .ofNat 10000000000000000
  peg := .ofNat 50000
  terminalQuote := .ofNat 10000000000000000
  feePool := .ofInt 1000000000000
  baseSpread := .ofNat 1000
  intensity := .ofNat 100

theorem deepPool_markPrice : deepPool.markPrice = .ok (.ofNat 500000000000) := by
  decide +kernel

/-- The bid for an oracle a thousandth below the mark, the ask for one a tenth above. -/
theorem deepPool_quotes_retreat :
    (∃ reserves price,
      deepPool.spreadReserves .short { price := .ofInt 499500000000 } .costBasis = .ok reserves ∧
      priceOf reserves.base reserves.quote deepPool.peg = .ok price ∧
      (price.toNat : Int) * Scale.spread ≤ 500000000000 * (Scale.spread - 1000 + 2)) ∧
    ∃ reserves price,
      deepPool.spreadReserves .long { price := .ofInt 550000000000 } .costBasis = .ok reserves ∧
      priceOf reserves.base reserves.quote deepPool.peg = .ok price ∧
      500000000000 * ((Scale.spread : Int) + 100000 - 2) ≤
        price.toNat * Scale.spread + Scale.spread := by
  constructor
  case left =>
    have gap : oracleMarkSpread (.ofNat 500000000000)
        (OracleReading.price { price := .ofInt 499500000000 }) = .ok (.ofInt 1000) := by
      decide +kernel
    have bidding : deepPool.spreadReserves .short { price := .ofInt 499500000000 } .costBasis =
        .ok { base := .ofNat 10005002501250625, quote := .ofNat 9995000000000000 } := by
      decide +kernel
    obtain ⟨price, hprice, -, large⟩ :=
      (quotes_retreat (by decide) (by decide) (by decide) deepPool_markPrice gap).1 (by decide) _
        bidding
    obtain ⟨-, linear⟩ := large (by decide) (by decide) (by decide)
    exact ⟨_, price, bidding, hprice, linear (by decide)⟩
  case right =>
    have gap : oracleMarkSpread (.ofNat 500000000000)
        (OracleReading.price { price := .ofInt 550000000000 }) = .ok (.ofInt (-100000)) := by
      decide +kernel
    have asking : deepPool.spreadReserves .long { price := .ofInt 550000000000 } .costBasis =
        .ok { base := .ofNat 9523809523809523, quote := .ofNat 10500000000000000 } := by
      decide +kernel
    have price : priceOf (.ofNat 9523809523809523) (.ofNat 10500000000000000) deepPool.peg =
        .ok (.ofNat 551250000000) := by
      decide +kernel
    exact ⟨_, _, asking, price,
      (quotes_retreat (by decide) (by decide) (by decide) deepPool_markPrice gap).2 (by decide)
        (by decide) (by decide) _ asking _ price⟩

/-- For an oracle a tenth below the mark the bid of `deepPool` lies only 9.75 percent below it. -/
theorem not_bid_retreats_linearly :
    ¬ ∀ (curve : Curve) (oracle : OracleReading) (policy : SpreadPolicy) (mark price : Amount)
        (gap : SignedAmount) (reserves : Reserves),
      curve.baseSpread.toNat ≠ 0 → curve.intensity.toNat ≠ 0 →
      curve.quote.toNat = curve.sqrtK.toNat ^ 2 / curve.base.toNat →
      curve.markPrice = .ok mark → oracleMarkSpread mark oracle.price = .ok gap →
      0 < gap.toInt → curve.spreadReserves .short oracle policy = .ok reserves →
      priceOf reserves.base reserves.quote curve.peg = .ok price →
      (price.toNat : Int) * Scale.spread ≤ mark.toNat * (Scale.spread - gap.toInt + 2) := by
  intro linear
  have gap : oracleMarkSpread (.ofNat 500000000000) (.ofInt 450000000000) =
      .ok (.ofInt 100000) := by
    decide +kernel
  have bidding : deepPool.spreadReserves .short { price := .ofInt 450000000000 } .costBasis =
      .ok { base := .ofNat 10526315789473684, quote := .ofNat 9500000000000000 } := by
    decide +kernel
  have price : priceOf (.ofNat 10526315789473684) (.ofNat 9500000000000000) deepPool.peg =
      .ok (.ofNat 451250000000) := by
    decide +kernel
  have too_far := linear deepPool { price := .ofInt 450000000000 } .costBasis _ _ _ _ (by decide)
    (by decide) (by decide) deepPool_markPrice gap (by decide) bidding price
  exact absurd too_far (by decide)

end Curve

end PerpetualCurve
