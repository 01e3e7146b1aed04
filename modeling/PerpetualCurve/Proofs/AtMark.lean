import Mathlib.Tactic.Ring
import PerpetualCurve.Proofs.Limit
import PerpetualCurve.Proofs.Spread

/-!
# Trades up to the curve's own mark

Without a spread and an oracle a trade starts on the curve's own reserves. The mark of the curve is
rounded down twice, once in the quote reserve and once in the price, and then it is a limit that the
curve lies above: nothing is bought. What is sold brings the price down by what was cut off. It is
nothing where less than one unit of base does so, as on a balanced curve, which cuts nothing off.
-/

namespace PerpetualCurve

section Floors

variable {reserves : Reserves} {sqrtK peg mark finish : Amount}

/-- The base reserve at a price, with the scale of the peg cancelled. -/
theorem le_baseAtPrice_iff_unscaled (hfinish : baseAtPrice sqrtK peg mark = .ok finish) (n : Nat) :
    n ≤ finish.toNat ↔
      n ^ 2 * mark.toNat ≤ sqrtK.toNat ^ 2 * (Scale.priceToPeg * peg.toNat) := by
  have scaled : sqrtK.toNat ^ 2 * Scale.price * peg.toNat =
      sqrtK.toNat ^ 2 * (Scale.priceToPeg * peg.toNat) * Scale.peg := by
    rw [Scale.price_eq]
    ring
  rw [le_baseAtPrice_iff hfinish, scaled]
  exact Nat.mul_le_mul_right_iff (by decide)

/-- The base reserve at the mark is no less than the one the mark is taken at. -/
theorem base_le_baseAtMark (depth : reserves.OnDepth sqrtK)
    (hmark : priceOf reserves.base reserves.quote peg = .ok mark)
    (hfinish : baseAtPrice sqrtK peg mark = .ok finish) :
    reserves.base.toNat ≤ finish.toNat := by
  rw [le_baseAtPrice_iff_unscaled hfinish]
  calc reserves.base.toNat ^ 2 * mark.toNat
      = mark.toNat * reserves.base.toNat * reserves.base.toNat := by ring
    _ ≤ Scale.priceToPeg * reserves.quote.toNat * peg.toNat * reserves.base.toNat :=
        Nat.mul_le_mul_right _ (priceOf_mul_base_le hmark)
    _ = reserves.base.toNat * reserves.quote.toNat * (Scale.priceToPeg * peg.toNat) := by ring
    _ ≤ sqrtK.toNat ^ 2 * (Scale.priceToPeg * peg.toNat) := Nat.mul_le_mul_right _ depth.mul_le

/-- It is more by no more than what the two floors cut off is worth. -/
theorem sq_mul_mark_lt (rebuilt : reserves.QuoteRebuilt sqrtK)
    (hmark : priceOf reserves.base reserves.quote peg = .ok mark)
    (hfinish : baseAtPrice sqrtK peg mark = .ok finish) :
    finish.toNat ^ 2 * mark.toNat < reserves.base.toNat ^ 2 * mark.toNat +
      reserves.base.toNat * (reserves.base.toNat + Scale.priceToPeg * peg.toNat) := by
  have base_pos := rebuilt.base_pos
  have price_cut := (priceOf_bracket hmark (by omega)).2
  calc finish.toNat ^ 2 * mark.toNat
      ≤ sqrtK.toNat ^ 2 * (Scale.priceToPeg * peg.toNat) :=
        (le_baseAtPrice_iff_unscaled hfinish _).1 (Nat.le_refl _)
    _ ≤ reserves.base.toNat * (reserves.quote.toNat + 1) * (Scale.priceToPeg * peg.toNat) :=
        Nat.mul_le_mul_right _ (Nat.le_of_lt rebuilt.lt_mul_succ)
    _ = reserves.base.toNat * (Scale.priceToPeg * reserves.quote.toNat * peg.toNat +
          Scale.priceToPeg * peg.toNat) := by ring
    _ < reserves.base.toNat * ((mark.toNat + 1) * reserves.base.toNat +
          Scale.priceToPeg * peg.toNat) :=
        Nat.mul_lt_mul_of_pos_left (Nat.add_lt_add_right price_cut _) base_pos
    _ = reserves.base.toNat ^ 2 * mark.toNat +
          reserves.base.toNat * (reserves.base.toNat + Scale.priceToPeg * peg.toNat) := by ring

end Floors

/-- A trade to a base reserve that is no less than where it starts is a sale, or nothing. -/
theorem TradeSize.Leads.add_amount {trade : TradeSize} {start finish : Amount}
    (leads : trade.Leads start finish) (sale : trade.side = .short ↔ start.toNat < finish.toNat)
    (le : start.toNat ≤ finish.toNat) :
    finish.toNat = start.toNat + trade.amount.toNat ∧
      (trade.side = .long ↔ trade.amount.toNat = 0) := by
  cases hside : trade.side with
  | long =>
    have moved := (leads_of_long hside).1 leads
    exact ⟨by omega, iff_of_true rfl (by omega)⟩
  | short =>
    have moved := (leads_of_short hside).1 leads
    have more := sale.1 hside
    exact ⟨moved, iff_of_false nofun (by omega)⟩

namespace Curve

variable {curve : Curve} {side : Side} {costs : CostModel} {policy : SpreadPolicy}
  {mark : Amount} {start : TradeStart} {trade : TradeSize}

theorem tradeStart_of_no_spread (h : curve.tradeStart side none costs policy = .ok start)
    (noSpread : curve.baseSpread.toNat = 0) :
    start = { base := curve.base, sqrtK := curve.sqrtK, peg := curve.peg } := by
  simp only [tradeStart, Outcome.bind_eq_ok_iff, Outcome.pure_eq_ok_iff] at h
  obtain ⟨_, -, _, -, reserves, hreserves, rfl⟩ := h
  obtain ⟨spread, half, hspread, hhalf, ⟨-, rfl⟩ | ⟨shifts, -⟩⟩ :=
    spreadReserves_eq_ok_iff.1 hreserves
  · rfl
  · have spread_eq := halfSpread_of_off hspread (.inl noSpread)
    omega

/-- On a balanced curve neither floor cuts anything off. -/
theorem priceToPeg_mul_peg_le_mark (rebuilt : curve.QuoteRebuilt curve.sqrtK)
    (hmark : curve.markPrice = .ok mark) (balanced : curve.base = curve.sqrtK) :
    Scale.priceToPeg * curve.peg.toNat ≤ mark.toNat := by
  have base_pos := rebuilt.base_pos
  have quote_eq : curve.quote.toNat = curve.base.toNat := by
    rw [rebuilt.quote_eq, ← balanced, Nat.pow_two, Nat.mul_div_cancel _ base_pos]
  have price_cut := (priceOf_bracket hmark (by omega)).2
  rw [quote_eq] at price_cut
  apply Nat.le_of_lt_succ
  apply Nat.lt_of_mul_lt_mul_right (a := curve.base.toNat)
  calc Scale.priceToPeg * curve.peg.toNat * curve.base.toNat
      = Scale.priceToPeg * curve.base.toNat * curve.peg.toNat := by ring
    _ < (mark.toNat + 1) * curve.base.toNat := price_cut

/-- So one unit more of base is past the mark. -/
theorem mark_exact_of_balanced (rebuilt : curve.QuoteRebuilt curve.sqrtK)
    (hmark : curve.markPrice = .ok mark) (mark_ne : mark.toNat ≠ 0)
    (balanced : curve.base = curve.sqrtK) :
    curve.sqrtK.toNat ^ 2 * Scale.price * curve.peg.toNat <
      (curve.base.toNat + 1) ^ 2 * mark.toNat * Scale.peg := by
  have mark_ge := priceToPeg_mul_peg_le_mark rebuilt hmark balanced
  have scaled_pos : 0 < mark.toNat * Scale.peg :=
    Nat.mul_pos (Nat.pos_of_ne_zero mark_ne) (by decide)
  calc curve.sqrtK.toNat ^ 2 * Scale.price * curve.peg.toNat
      = curve.base.toNat ^ 2 * (Scale.priceToPeg * curve.peg.toNat * Scale.peg) := by
        rw [← balanced, Scale.price_eq]
        ring
    _ ≤ curve.base.toNat ^ 2 * (mark.toNat * Scale.peg) :=
        Nat.mul_le_mul_left _ (Nat.mul_le_mul_right _ mark_ge)
    _ < (curve.base.toNat + 1) ^ 2 * (mark.toNat * Scale.peg) :=
        Nat.mul_lt_mul_of_pos_right (Nat.pow_lt_pow_left (Nat.lt_succ_self _) (by decide))
          scaled_pos
    _ = (curve.base.toNat + 1) ^ 2 * mark.toNat * Scale.peg := (Nat.mul_assoc _ _ _).symm

/-- Up to its own mark, a curve without a spread sells nothing to a trader, and takes no more than
makes up for what the mark was rounded down by. It takes nothing exactly where one unit of base is
too much for that, as it is on a balanced curve. -/
theorem maxTrade_at_mark (rebuilt : curve.QuoteRebuilt curve.sqrtK)
    (noSpread : curve.baseSpread.toNat = 0) (hmark : curve.markPrice = .ok mark)
    (h : curve.maxTrade mark side none costs policy = .ok trade) :
    (trade.side = .long ↔ trade.amount.toNat = 0) ∧
    (trade = { amount := 0, side := .long } ↔
      curve.sqrtK.toNat ^ 2 * Scale.price * curve.peg.toNat <
        (curve.base.toNat + 1) ^ 2 * mark.toNat * Scale.peg) ∧
    mark.toNat * (trade.amount.toNat * (2 * curve.base.toNat + trade.amount.toNat)) <
      curve.base.toNat * (curve.base.toNat + Scale.priceToPeg * curve.peg.toNat) ∧
    (curve.base = curve.sqrtK → trade = { amount := 0, side := .long }) := by
  obtain ⟨mark_ne, start, finish, hstart, hfinish, leads, sale⟩ := maxTrade_eq_ok_iff.1 h
  cases tradeStart_of_no_spread hstart noSpread
  dsimp only at hfinish leads sale
  have base_le := base_le_baseAtMark (.inl rebuilt) hmark hfinish
  obtain ⟨finish_eq, side_iff⟩ := leads.add_amount sale base_le
  have nothing_iff : trade = { amount := 0, side := .long } ↔
      ¬ curve.base.toNat + 1 ≤ finish.toNat := by
    rw [TradeSize.ext_iff, Unsigned.ext_iff, Unsigned.toNat_zero, finish_eq]
    constructor
    · rintro ⟨zero, -⟩
      omega
    · intro none
      have zero : trade.amount.toNat = 0 := by omega
      exact ⟨zero, side_iff.2 zero⟩
  rw [le_baseAtPrice_iff hfinish, Nat.not_le] at nothing_iff
  refine ⟨side_iff, nothing_iff, ?_, ?_⟩
  · have bound := sq_mul_mark_lt rebuilt hmark hfinish
    rw [finish_eq] at bound
    apply Nat.lt_of_add_lt_add_left (n := curve.base.toNat ^ 2 * mark.toNat)
    calc curve.base.toNat ^ 2 * mark.toNat +
          mark.toNat * (trade.amount.toNat * (2 * curve.base.toNat + trade.amount.toNat))
        = (curve.base.toNat + trade.amount.toNat) ^ 2 * mark.toNat := by ring
      _ < _ := bound
  · intro balanced
    exact nothing_iff.2 (mark_exact_of_balanced rebuilt hmark mark_ne balanced)

/-- A curve with three units of base for one of quote, at the price 50/3. -/
def lopsidedPool : Curve where
  base := .ofNat 30000000000000000
  quote := .ofNat 9999999999999998
  sqrtK := .ofNat 17320508075688772
  peg := .ofNat 50000
  terminalQuote := .ofNat 9999999999999998

theorem lopsidedPool_mark : lopsidedPool.markPrice = .ok (.ofNat 166666666666) := by
  decide +kernel

theorem lopsidedPool_maxTrade :
    lopsidedPool.maxTrade (.ofNat 166666666666) .long none .constantProduct .costBasis =
      .ok { amount := .ofNat 59998, side := .short } := by
  decide +kernel

theorem evenPool_mark : evenPool.markPrice = .ok (.ofNat 500000000000) := by
  decide +kernel

/-- `evenPool` trades nothing up to its mark, and `lopsidedPool` takes some units. -/
theorem pools_at_mark :
    evenPool.maxTrade (.ofNat 500000000000) .short none .constantProduct .costBasis =
      .ok { amount := 0, side := .long } ∧
    evenPool.sqrtK.toNat ^ 2 * Scale.price * evenPool.peg.toNat <
      (evenPool.base.toNat + 1) ^ 2 * 500000000000 * Scale.peg ∧
    lopsidedPool.maxTrade (.ofNat 166666666666) .long none .constantProduct .costBasis =
      .ok { amount := .ofNat 59998, side := .short } ∧
    166666666666 * (59998 * (2 * lopsidedPool.base.toNat + 59998)) <
      lopsidedPool.base.toNat *
        (lopsidedPool.base.toNat + Scale.priceToPeg * lopsidedPool.peg.toNat) := by
  have sized : evenPool.maxTrade (.ofNat 500000000000) .short none .constantProduct .costBasis =
      .ok { amount := 0, side := .long } := by
    decide +kernel
  have evenRebuilt : evenPool.QuoteRebuilt evenPool.sqrtK := ⟨by decide, by decide⟩
  have lopsidedRebuilt : lopsidedPool.QuoteRebuilt lopsidedPool.sqrtK := ⟨by decide, by decide⟩
  obtain ⟨-, nothing, -⟩ := maxTrade_at_mark evenRebuilt rfl evenPool_mark sized
  obtain ⟨-, -, bound, -⟩ :=
    maxTrade_at_mark lopsidedRebuilt rfl lopsidedPool_mark lopsidedPool_maxTrade
  exact ⟨sized, nothing.1 rfl, lopsidedPool_maxTrade, bound⟩

/-- `lopsidedPool` takes some units at its own mark. -/
theorem not_nothing_at_mark :
    ¬ ∀ (curve : Curve) (mark : Amount) (side : Side) (costs : CostModel) (policy : SpreadPolicy)
        (trade : TradeSize),
      curve.QuoteRebuilt curve.sqrtK → curve.baseSpread.toNat = 0 →
      curve.markPrice = .ok mark → 0 < mark.toNat →
      curve.maxTrade mark side none costs policy = .ok trade →
      trade = { amount := 0, side := .long } := by
  intro nothing
  have claimed := nothing _ _ _ _ _ _ ⟨by decide, by decide⟩ rfl lopsidedPool_mark (by decide)
    lopsidedPool_maxTrade
  exact absurd claimed (by decide)

end Curve

end PerpetualCurve
