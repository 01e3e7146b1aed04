import PerpetualCurve.Curve.Price
import PerpetualCurve.Proofs.Outcome

/-!
# Comparing prices

A price is a floor, and the floor keeps the order of what is divided. So a pair of reserves with no
less base and no more quote than another has no higher price, and it has one where the other has.
-/

namespace PerpetualCurve

theorem Scale.price_eq : Scale.price = Scale.peg * Scale.priceToPeg := rfl

/-- The scaled product of quote reserve and peg over the scaled base reserve; only the product can
be too wide. -/
theorem priceOf_eq_ok_iff {base quote peg price : Amount} :
    priceOf base quote peg = .ok price ↔
      base.toNat = 0 ∧ price = 0 ∨
      base.toNat ≠ 0 ∧ quote.toNat * Scale.price * peg.toNat < 2 ^ 192 ∧
        price.toNat = quote.toNat * Scale.price * peg.toNat / (Scale.peg * base.toNat) := by
  by_cases empty : base.toNat = 0
  · simp only [priceOf, empty, if_true, Outcome.pure_eq_ok_iff, ne_eq, not_true_eq_false, true_and,
      false_and, or_false]
    exact eq_comm
  · simp only [priceOf, empty, if_false, Outcome.bind_eq_ok_iff, Unsigned.checked_eq_ok_iff,
      divide_eq_ok_iff, narrow_eq_ok_iff, false_and, false_or, ne_eq, not_false_eq_true, true_and]
    constructor
    · rintro ⟨scaled, hscaled, numerator, hnumerator, divisor, hdivisor, _, ⟨-, rfl⟩, hprice⟩
      have numerator_lt := numerator.toNat_lt
      rw [hscaled] at hnumerator
      rw [hnumerator] at hprice numerator_lt
      exact ⟨numerator_lt, hdivisor ▸ hprice⟩
    · rintro ⟨numerator_lt, hprice⟩
      -- scaled by a constant, neither reserve is too wide
      have scaled_lt : quote.toNat * Scale.price < 2 ^ 192 := by
        have := quote.toNat_lt
        unfold Scale.price
        omega
      have divisor_lt : Scale.peg * base.toNat < 2 ^ 192 := by
        have := base.toNat_lt
        unfold Scale.peg
        omega
      have divisor_ne : Scale.peg * base.toNat ≠ 0 := Nat.mul_ne_zero (by decide) empty
      exact ⟨⟨_, scaled_lt⟩, rfl, ⟨_, numerator_lt⟩, rfl, ⟨_, divisor_lt⟩, rfl, _,
        ⟨divisor_ne, rfl⟩, hprice⟩

/-- The price times the base reserve is the quote reserve times the peg at the price scale, up to
the rounding of one unit of price. -/
theorem priceOf_bracket {base quote peg price : Amount} (h : priceOf base quote peg = .ok price)
    (hbase : base.toNat ≠ 0) :
    price.toNat * base.toNat ≤ Scale.priceToPeg * quote.toNat * peg.toNat ∧
      Scale.priceToPeg * quote.toNat * peg.toNat < (price.toNat + 1) * base.toNat := by
  rcases priceOf_eq_ok_iff.1 h with ⟨empty, -⟩ | ⟨-, -, hprice⟩
  · exact absurd empty hbase
  have numerator_eq : quote.toNat * Scale.price * peg.toNat =
      Scale.peg * (Scale.priceToPeg * quote.toNat * peg.toNat) := by
    rw [Scale.price_eq, Nat.mul_comm quote.toNat, Nat.mul_assoc, Nat.mul_assoc, Nat.mul_assoc]
  rw [numerator_eq, Nat.mul_div_mul_left _ _ (by decide)] at hprice
  rw [hprice, Nat.mul_comm (_ + 1)]
  exact ⟨Nat.div_mul_le_self _ _, Nat.lt_mul_div_succ _ (Nat.pos_of_ne_zero hbase)⟩

/-- Without a base reserve too, the price is no more than that. -/
theorem priceOf_mul_base_le {base quote peg price : Amount}
    (h : priceOf base quote peg = .ok price) :
    price.toNat * base.toNat ≤ Scale.priceToPeg * quote.toNat * peg.toNat := by
  by_cases empty : base.toNat = 0
  · rw [empty, Nat.mul_zero]
    exact Nat.zero_le _
  · exact (priceOf_bracket h empty).1

/-- `high` has some base, but no more than `low`, and no less quote. -/
structure Reserves.Underprices (low high : Reserves) : Prop where
  base_pos : 0 < high.base.toNat
  base_le : high.base.toNat ≤ low.base.toNat
  quote_le : low.quote.toNat ≤ high.quote.toNat

theorem Reserves.Underprices.refl {reserves : Reserves} (h : 0 < reserves.base.toNat) :
    reserves.Underprices reserves :=
  ⟨h, Nat.le_refl _, Nat.le_refl _⟩

/-- Prices keep the order of the reserves, and the lower one exists where the higher one does. -/
theorem Reserves.Underprices.priceOf_le {low high : Reserves} {peg highPrice : Amount}
    (h : low.Underprices high) (hp : priceOf high.base high.quote peg = .ok highPrice) :
    ∃ lowPrice, priceOf low.base low.quote peg = .ok lowPrice ∧
      lowPrice.toNat ≤ highPrice.toNat := by
  obtain ⟨base_pos, base_le, quote_le⟩ := h
  rcases priceOf_eq_ok_iff.1 hp with ⟨empty, -⟩ | ⟨-, fits, hprice⟩
  · omega
  have numerator_le : low.quote.toNat * Scale.price * peg.toNat ≤
      high.quote.toNat * Scale.price * peg.toNat :=
    Nat.mul_le_mul_right _ (Nat.mul_le_mul_right _ quote_le)
  have divisor_ne : Scale.peg * high.base.toNat ≠ 0 := Nat.mul_ne_zero (by decide) (by omega)
  have price_le : low.quote.toNat * Scale.price * peg.toNat / (Scale.peg * low.base.toNat) ≤
      highPrice.toNat := by
    rw [hprice]
    exact Nat.div_le_div numerator_le (Nat.mul_le_mul_left _ base_le) divisor_ne
  have price_lt := Nat.lt_of_le_of_lt price_le highPrice.toNat_lt
  have numerator_lt := Nat.lt_of_le_of_lt numerator_le fits
  exact ⟨⟨_, price_lt⟩, priceOf_eq_ok_iff.2 (.inr ⟨by omega, numerator_lt, rfl⟩), price_le⟩

end PerpetualCurve
