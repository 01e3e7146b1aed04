import PerpetualCurve.Proofs.Price
import PerpetualCurve.Proofs.Repeg
import PerpetualCurve.Quote.Reserves

/-!
# Quotes around the mark

The ask is priced from more quote and the bid from less. The base reserve beside it is rebuilt from
the invariant, and its floor is taken anew, so it does not follow from the shift alone that the ask
has no more base than the curve. It does once the shift is at least one unit: the curve's quote
reserve is a floor itself, and one unit more is past what the floor cut off.
-/

namespace PerpetualCurve

namespace Reserves

variable {reserves : Reserves} {sqrtK : Amount} {quote : Nat}

/-- A larger quote reserve leaves no more base. -/
theorem OnDepth.div_le_base (h : reserves.OnDepth sqrtK) (larger : reserves.quote.toNat < quote) :
    sqrtK.toNat ^ 2 / quote ≤ reserves.base.toNat := by
  rcases h with rebuilt | rebuilt
  · apply Nat.le_of_lt
    apply Nat.div_lt_of_lt_mul
    calc sqrtK.toNat ^ 2
        < reserves.base.toNat * (reserves.quote.toNat + 1) := rebuilt.lt_mul_succ
      _ ≤ reserves.base.toNat * quote := Nat.mul_le_mul_left _ larger
      _ = quote * reserves.base.toNat := Nat.mul_comm _ _
  · rw [rebuilt.base_eq]
    exact Nat.div_le_div_left (Nat.le_of_lt larger) rebuilt.quote_pos

/-- A smaller quote reserve leaves no less base. -/
theorem OnDepth.base_le_div (h : reserves.OnDepth sqrtK) (hpos : 0 < quote)
    (smaller : quote ≤ reserves.quote.toNat) :
    reserves.base.toNat ≤ sqrtK.toNat ^ 2 / quote := by
  rw [Nat.le_div_iff_mul_le hpos]
  calc reserves.base.toNat * quote
      ≤ reserves.base.toNat * reserves.quote.toNat := Nat.mul_le_mul_left _ smaller
    _ ≤ sqrtK.toNat ^ 2 := h.mul_le

/-- Beside two units of base the quote reserve can double without using up the base. -/
theorem QuoteRebuilt.div_pos (h : reserves.QuoteRebuilt sqrtK) (hbase : 2 ≤ reserves.base.toNat)
    (hpos : 0 < quote) (le_double : quote ≤ 2 * reserves.quote.toNat) :
    0 < sqrtK.toNat ^ 2 / quote := by
  refine Nat.div_pos ?_ hpos
  calc quote
      ≤ 2 * reserves.quote.toNat := le_double
    _ ≤ reserves.base.toNat * reserves.quote.toNat := Nat.mul_le_mul_right _ hbase
    _ ≤ sqrtK.toNat ^ 2 := OnDepth.mul_le (.inl h)

end Reserves

namespace Curve

variable {curve : Curve} {side : Side} {oracle : OracleReading} {policy : SpreadPolicy}
  {costs : CostModel} {half quote : Amount} {reserves : Reserves}

/-- What a half spread shifts the quote reserve by. -/
def quoteShift (curve : Curve) (half : Amount) : Nat :=
  curve.quote.toNat / (Scale.spread / half.toNat)

theorem quoteShift_le (curve : Curve) (half : Amount) :
    curve.quoteShift half ≤ curve.quote.toNat :=
  Nat.div_le_self _ _

/-- Any shift of a reserve that holds a whole spread scale is at least one unit. -/
theorem quoteShift_pos (divides : Scale.spread / half.toNat ≠ 0)
    (hquote : Scale.spread ≤ curve.quote.toNat) : 0 < curve.quoteShift half := by
  have divisor_le : Scale.spread / half.toNat ≤ Scale.spread := Nat.div_le_self _ _
  exact Nat.div_pos (Nat.le_trans divisor_le hquote) (Nat.pos_of_ne_zero divides)

theorem shiftedQuote_long_eq_ok_iff :
    curve.shiftedQuote .long half = .ok quote ↔
      Scale.spread / half.toNat ≠ 0 ∧ quote.toNat = curve.quote.toNat + curve.quoteShift half := by
  simp only [shiftedQuote, Outcome.bind_eq_ok_iff, Outcome.guarded_eq_ok_iff, divide_eq_ok_iff,
    Unsigned.checked_eq_ok_iff]
  constructor
  · rintro ⟨divisor, ⟨-, rfl⟩, divides, shift, ⟨-, rfl⟩, hquote⟩
    exact ⟨divides, hquote⟩
  · rintro ⟨divides, hquote⟩
    have half_ne : half.toNat ≠ 0 := (Nat.div_ne_zero_iff.1 divides).1
    exact ⟨_, ⟨half_ne, rfl⟩, divides, _, ⟨divides, rfl⟩, hquote⟩

theorem shiftedQuote_short_eq_ok_iff :
    curve.shiftedQuote .short half = .ok quote ↔
      Scale.spread / half.toNat ≠ 0 ∧ 0 < quote.toNat ∧
        quote.toNat + curve.quoteShift half = curve.quote.toNat := by
  simp only [shiftedQuote, Outcome.bind_eq_ok_iff, Outcome.guarded_eq_ok_iff, divide_eq_ok_iff,
    Unsigned.checked_eq_ok_iff, Unsigned.difference_eq_ok_iff]
  constructor
  · rintro ⟨divisor, ⟨-, rfl⟩, divides, _, ⟨-, rfl⟩, covered, shift, hshift, hquote⟩
    rw [hshift] at hquote
    exact ⟨divides, by omega, hquote⟩
  · rintro ⟨divides, hpos, hquote⟩
    have half_ne : half.toNat ≠ 0 := (Nat.div_ne_zero_iff.1 divides).1
    have shift_lt : curve.quoteShift half < 2 ^ 128 :=
      Nat.lt_of_le_of_lt (curve.quoteShift_le half) curve.quote.toNat_lt
    refine ⟨_, ⟨half_ne, rfl⟩, divides, _, ⟨divides, rfl⟩, ?_, ⟨_, shift_lt⟩, rfl, hquote⟩
    unfold quoteShift at hquote
    omega

/-- The reserves of a quote are those of the curve, or the base is rebuilt beside a shifted quote
reserve. -/
theorem spreadReserves_eq_ok_iff :
    curve.spreadReserves side oracle policy = .ok reserves ↔
      ∃ spread half : Amount, curve.halfSpread side oracle policy = .ok spread ∧
        half.toNat = spread.toNat / 2 ∧
        (half.toNat = 0 ∧ curve.toReserves = reserves ∨
          half.toNat ≠ 0 ∧ curve.shiftedQuote side half = .ok reserves.quote ∧
            reserves.quote.toNat ≠ 0 ∧
            reserves.base.toNat = curve.sqrtK.toNat ^ 2 / reserves.quote.toNat) := by
  simp only [spreadReserves, Outcome.bind_eq_ok_iff, invariant_eq, Outcome.ok_bind]
  constructor
  · rintro ⟨spread, hspread, h⟩
    have half_lt := Nat.lt_of_le_of_lt (Nat.div_le_self spread.toNat 2) spread.toNat_lt
    refine ⟨spread, ⟨spread.toNat / 2, half_lt⟩, hspread, rfl, ?_⟩
    split at h
    case isTrue zero =>
      exact .inl ⟨zero, Outcome.pure_eq_ok_iff.1 h⟩
    case isFalse shifts =>
      simp only [Outcome.bind_eq_ok_iff, Outcome.pure_eq_ok_iff, divide_eq_ok_iff,
        narrow_eq_ok_iff] at h
      obtain ⟨quote, hquote, _, ⟨hne, rfl⟩, base, hbase, rfl⟩ := h
      exact .inr ⟨shifts, hquote, hne, hbase⟩
  · rintro ⟨spread, ⟨_, _⟩, hspread, rfl, h⟩
    refine ⟨spread, hspread, ?_⟩
    rcases h with ⟨zero, rfl⟩ | ⟨shifts, hquote, hne, hbase⟩
    · rw [if_pos zero]
      rfl
    · rw [if_neg shifts]
      simp only [Outcome.bind_eq_ok_iff, Outcome.pure_eq_ok_iff, divide_eq_ok_iff,
        narrow_eq_ok_iff]
      exact ⟨_, hquote, _, ⟨hne, rfl⟩, _, hbase, rfl⟩

/-- The ask is priced no lower than the reserves of the curve. -/
theorem underprices_asking (h : curve.spreadReserves .long oracle policy = .ok reserves)
    (rebuilt : curve.QuoteRebuilt curve.sqrtK) (hbase : 2 ≤ curve.base.toNat)
    (hquote : Scale.spread ≤ curve.quote.toNat) : curve.toReserves.Underprices reserves := by
  obtain ⟨_, half, -, -, ⟨-, rfl⟩ | ⟨-, hshifted, hne, hrebuilt⟩⟩ := spreadReserves_eq_ok_iff.1 h
  · exact .refl rebuilt.base_pos
  · obtain ⟨divides, hmoved⟩ := shiftedQuote_long_eq_ok_iff.1 hshifted
    have shift_pos := quoteShift_pos divides hquote
    have shift_le := curve.quoteShift_le half
    constructor
    case base_pos => exact hrebuilt ▸ rebuilt.div_pos hbase (by omega) (by omega)
    case base_le => exact hrebuilt ▸ Reserves.OnDepth.div_le_base (.inl rebuilt) (by omega)
    case quote_le => omega

/-- The bid is priced no higher than the reserves of the curve. -/
theorem underprices_bidding (h : curve.spreadReserves .short oracle policy = .ok reserves)
    (rebuilt : curve.QuoteRebuilt curve.sqrtK) : reserves.Underprices curve.toReserves := by
  obtain ⟨_, half, -, -, ⟨-, rfl⟩ | ⟨-, hshifted, hne, hrebuilt⟩⟩ := spreadReserves_eq_ok_iff.1 h
  · exact .refl rebuilt.base_pos
  · obtain ⟨-, hpos, hmoved⟩ := shiftedQuote_short_eq_ok_iff.1 hshifted
    constructor
    case base_pos => exact rebuilt.base_pos
    case base_le => exact hrebuilt ▸ Reserves.OnDepth.base_le_div (.inl rebuilt) hpos (by omega)
    case quote_le => omega

variable {quotes : BidAsk}

theorem bidAsk_eq_ok_iff :
    curve.bidAsk oracle costs policy = .ok quotes ↔
      ∃ next asking bidding, curve.updated oracle costs = .ok next ∧
        next.spreadReserves .long oracle policy = .ok asking ∧
        next.spreadReserves .short oracle policy = .ok bidding ∧
        priceOf asking.base asking.quote next.peg = .ok quotes.ask ∧
        priceOf bidding.base bidding.quote next.peg = .ok quotes.bid := by
  simp only [bidAsk, Outcome.bind_eq_ok_iff, Outcome.pure_eq_ok_iff]
  constructor
  · rintro ⟨next, hnext, asking, hasking, bidding, hbidding, ask, hask, bid, hbid, rfl⟩
    exact ⟨next, asking, bidding, hnext, hasking, hbidding, hask, hbid⟩
  · rintro ⟨next, asking, bidding, hnext, hasking, hbidding, hask, hbid⟩
    exact ⟨next, hnext, asking, hasking, bidding, hbidding, _, hask, _, hbid, rfl⟩

/-- Where the quote reserve of the updated curve is rebuilt from the depth, which an update that is
turned on sees to, the mark exists and lies between bid and ask. The two bounds on the reserves keep
the base reserve of the ask above zero and its shift at one unit or more. -/
theorem bid_le_mark_le_ask (h : curve.bidAsk oracle costs policy = .ok quotes) :
    ∃ next, curve.updated oracle costs = .ok next ∧
      (curve.intensity.toNat ≠ 0 →
        next.quote.toNat = next.sqrtK.toNat ^ 2 / next.base.toNat) ∧
      (next.quote.toNat = next.sqrtK.toNat ^ 2 / next.base.toNat → 2 ≤ next.base.toNat →
        Scale.spread ≤ next.quote.toNat →
        ∃ mark, next.markPrice = .ok mark ∧ quotes.bid.toNat ≤ mark.toNat ∧
          mark.toNat ≤ quotes.ask.toNat) := by
  obtain ⟨next, asking, bidding, hnext, hasking, hbidding, hask, hbid⟩ := bidAsk_eq_ok_iff.1 h
  refine ⟨next, hnext, fun on => (updated_quoteRebuilt hnext on).quote_eq, ?_⟩
  intro canonical hbase hquote
  have rebuilt : next.QuoteRebuilt next.sqrtK := ⟨by omega, canonical⟩
  -- the ask shows that the mark exists, the mark that the bid is its own lower price
  obtain ⟨mark, hmark, mark_le⟩ :=
    (underprices_asking hasking rebuilt hbase hquote).priceOf_le hask
  obtain ⟨low, hlow, low_le⟩ := (underprices_bidding hbidding rebuilt).priceOf_le hmark
  cases hbid.symm.trans hlow
  exact ⟨mark, hmark, low_le, mark_le⟩

/-- A curve whose base reserve does not divide the square of its depth. -/
def uneven : Curve where
  base := .ofNat 10000000000000007
  quote := .ofNat 9999999999999993
  sqrtK := .ofNat 10000000000000000
  peg := .ofNat 50000
  netBase := .ofInt 100000000000000
  terminalQuote := .ofNat 9900990099009894
  feePool := .ofInt 1000000000
  baseSpread := .ofNat 1000
  intensity := .ofNat 100

theorem uneven_bid_le_mark_le_ask :
    ∃ quotes next mark,
      uneven.bidAsk { price := .ofInt 551234567891 } .constantProduct .costBasis = .ok quotes ∧
      uneven.updated { price := .ofInt 551234567891 } .constantProduct = .ok next ∧
      next.quote.toNat = next.sqrtK.toNat ^ 2 / next.base.toNat ∧ 2 ≤ next.base.toNat ∧
      Scale.spread ≤ next.quote.toNat ∧ next.markPrice = .ok mark ∧
      quotes.bid.toNat ≤ mark.toNat ∧ mark.toNat ≤ quotes.ask.toNat := by
  have quoted : uneven.bidAsk { price := .ofInt 551234567891 } .constantProduct .costBasis =
      .ok { bid := .ofNat 550954419451, ask := .ofNat 551506756616 } := by
    decide +kernel
  have repegged : uneven.updated { price := .ofInt 551234567891 } .constantProduct =
      .ok { uneven with peg := .ofNat 55123, feePool := .ofInt 949277228 } := by
    decide +kernel
  obtain ⟨next, hnext, -, bracket⟩ := bid_le_mark_le_ask quoted
  cases repegged.symm.trans hnext
  obtain ⟨mark, hmark, above, below⟩ := bracket (by decide) (by decide) (by decide)
  exact ⟨_, _, mark, quoted, repegged, by decide, by decide, by decide, hmark, above, below⟩

end Curve

end PerpetualCurve
