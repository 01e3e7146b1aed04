import PerpetualCurve.Peg.Cost
import PerpetualCurve.Proofs.Outcome

/-!
# What a peg costs

The cost of a peg is the move from the old peg times the gap between quote reserve and terminal
reserve, scaled down to quote units toward zero. The walk toward a target is capped by the budget
divided by that gap, so its cost never exceeds the budget, whichever signs move and gap have.
-/

namespace PerpetualCurve

/-- A peg that meets a price is never zero. -/
theorem pegForPrice_pos {base quote price peg : Amount}
    (h : pegForPrice base quote price = .ok peg) : 0 < peg.toNat := by
  simp only [pegForPrice, Outcome.bind_eq_ok_iff, Outcome.pure_eq_ok_iff] at h
  obtain ⟨-, -, -, -, -, -, nearest, -, rfl⟩ := h
  split
  · decide
  · omega

theorem positivePrice_toNat {oracle : OracleReading} {price : Amount}
    (h : oracle.positivePrice = .ok price) : (price.toNat : Int) = oracle.price.toInt := by
  unfold OracleReading.positivePrice at h
  split at h
  · cases h
  · exact Signed.toUnsigned_eq_ok_iff.1 h

/-- The target of a curve is the peg that meets the price of the reading. -/
theorem Curve.targetPeg_eq_ok_iff {curve : Curve} {oracle : OracleReading} {peg : Amount} :
    curve.targetPeg oracle = .ok peg ↔
      ∃ price, oracle.positivePrice = .ok price ∧
        pegForPrice curve.base curve.quote price = .ok peg := by
  simp only [targetPeg, Outcome.bind_eq_ok_iff]

/-- Scaling down in two steps toward zero is scaling down in one. -/
theorem tdiv_scales (product : Int) :
    (product.tdiv Scale.reserveToQuote).tdiv Scale.peg =
      product.tdiv (Scale.reserveToQuote * Scale.peg : Nat) := by
  have nonneg (n : Nat) : ((n : Int).tdiv Scale.reserveToQuote).tdiv Scale.peg =
      (n : Int).tdiv (Scale.reserveToQuote * Scale.peg : Nat) := by
    rw [← Int.ofNat_tdiv, ← Int.ofNat_tdiv, ← Int.ofNat_tdiv, Nat.div_div_eq_div_mul]
  obtain ⟨n, rfl | rfl⟩ := Int.eq_nat_or_neg product
  · exact nonneg n
  · rw [Int.neg_tdiv, Int.neg_tdiv, Int.neg_tdiv, nonneg]

namespace Curve

section Step

variable {peg target move : Amount}

theorem stepPeg_between (h : 0 < target.toNat) :
    min peg.toNat target.toNat ≤ (stepPeg peg target move).toNat ∧
      (stepPeg peg target move).toNat ≤ max peg.toNat target.toNat := by
  unfold stepPeg
  split <;> simp only <;> omega

theorem stepPeg_sub_natAbs_le (h : 0 < target.toNat) :
    ((stepPeg peg target move).toNat - peg.toNat : Int).natAbs ≤ move.toNat := by
  unfold stepPeg
  split <;> simp only <;> omega

end Step

variable {curve : Curve} {budget price peg : Amount} {cost : SignedAmount}

theorem terminalQuoteGap_toInt {gap : SignedAmount} (h : curve.terminalQuoteGap = .ok gap) :
    gap.toInt = curve.quote.toNat - curve.terminalQuote.toNat := by
  simp only [terminalQuoteGap, Outcome.bind_eq_ok_iff, Unsigned.toSigned_eq_ok_iff,
    Signed.checked_eq_ok_iff] at h
  obtain ⟨quote, hquote, terminal, hterminal, hgap⟩ := h
  rw [hgap, hquote, hterminal]

/-- The cost of a peg is the product of gap and move at the quote scale. -/
theorem repegCost_toInt (h : curve.repegCost peg = .ok cost) :
    cost.toInt = (((curve.quote.toNat - curve.terminalQuote.toNat : Int) *
      (peg.toNat - curve.peg.toNat)).tdiv Scale.reserveToQuote).tdiv Scale.peg := by
  simp only [repegCost, Outcome.bind_eq_ok_iff, Outcome.pure_eq_ok_iff,
    Unsigned.toSigned_eq_ok_iff, Signed.checked_eq_ok_iff] at h
  obtain ⟨gap, hgap, newPeg, hnew, oldPeg, hold, move, hmove, product, hproduct, rfl⟩ := h
  rw [Signed.toInt_quotient, Signed.toInt_quotient, hproduct, terminalQuoteGap_toInt hgap, hmove,
    hnew, hold]

/-- To keep the peg costs nothing. -/
theorem repegCost_of_same (h : curve.repegCost peg = .ok cost) (same : peg = curve.peg) :
    cost.toInt = 0 := by
  rw [repegCost_toInt h, same, Int.sub_self, Int.mul_zero]
  rfl

/-- Scaling down to quote units keeps an upper bound. -/
theorem tdiv_scales_le {product limit : Int}
    (h : product ≤ limit * (Scale.reserveToQuote * Scale.peg : Nat)) :
    (product.tdiv Scale.reserveToQuote).tdiv Scale.peg ≤ limit := by
  rw [tdiv_scales]
  calc product.tdiv (Scale.reserveToQuote * Scale.peg : Nat)
      ≤ (limit * (Scale.reserveToQuote * Scale.peg : Nat)).tdiv
          (Scale.reserveToQuote * Scale.peg : Nat) := Int.tdiv_le_tdiv (by decide) h
    _ = limit := Int.mul_tdiv_cancel _ (by decide)

/-- The three ways a walk toward `target` within `budget` ends. -/
inductive Walk (curve : Curve) (budget target : Amount) : Amount → Prop where
  | stays : target = curve.peg → Walk curve budget target curve.peg
  | arrives {cost : SignedAmount} : curve.repegCost target = .ok cost →
      cost.toInt ≤ budget.toNat → Walk curve budget target target
  | stops {cost gap : SignedAmount} {move : Amount} : curve.repegCost target = .ok cost →
      budget.toNat < cost.toInt → curve.terminalQuoteGap = .ok gap → gap.toInt ≠ 0 →
      move.toNat =
        budget.toNat * (Scale.reserveToQuote * Scale.peg) / gap.toInt.natAbs →
      Walk curve budget target (stepPeg curve.peg target move)

theorem budgetedPeg_walk (h : curve.budgetedPeg budget price = .ok peg) :
    ∃ target, pegForPrice curve.base curve.quote price = .ok target ∧
      curve.Walk budget target peg := by
  simp only [budgetedPeg, Outcome.bind_eq_ok_iff] at h
  obtain ⟨target, htarget, h⟩ := h
  refine ⟨target, htarget, ?_⟩
  split at h
  case isTrue same =>
    rw [Outcome.pure_eq_ok_iff] at h
    exact h ▸ .stays same
  case isFalse differs =>
    simp only [Outcome.bind_eq_ok_iff, Unsigned.toSigned_eq_ok_iff] at h
    obtain ⟨limit, hlimit, cost, hcost, h⟩ := h
    split at h
    case isTrue affordable =>
      rw [Outcome.pure_eq_ok_iff] at h
      exact h ▸ .arrives hcost (hlimit ▸ affordable)
    case isFalse unaffordable =>
      simp only [Outcome.bind_eq_ok_iff, Outcome.pure_eq_ok_iff, mulDiv_eq_ok_iff,
        Signed.toNat_magnitude] at h
      obtain ⟨gap, hgap, move, ⟨-, hne, hmove⟩, rfl⟩ := h
      exact .stops hcost (by omega) hgap (by omega) hmove

/-- A walk does not leave the way from the old peg to the target. -/
theorem Walk.between {target : Amount} (h : curve.Walk budget target peg)
    (hpos : 0 < target.toNat) :
    min curve.peg.toNat target.toNat ≤ peg.toNat ∧
      peg.toNat ≤ max curve.peg.toNat target.toNat := by
  cases h with
  | stays same => omega
  | arrives hcost affordable => omega
  | stops hcost unaffordable hgap hne hmove => exact stepPeg_between hpos

/-- A walk costs at most its budget. -/
theorem Walk.cost_le {target : Amount} (h : curve.Walk budget target peg)
    (hpos : 0 < target.toNat) (hcost : curve.repegCost peg = .ok cost) :
    cost.toInt ≤ budget.toNat := by
  cases h with
  | stays same =>
    rw [repegCost_toInt hcost, Int.sub_self, Int.mul_zero]
    exact Int.natCast_nonneg _
  | arrives hcost' affordable =>
    rw [hcost, Except.ok.injEq] at hcost'
    exact hcost' ▸ affordable
  | @stops _ gap move _ _ hgap hne hmove =>
    -- neither sign matters: the product is bounded by the product of the sizes
    have hmoved : ((stepPeg curve.peg target move).toNat - curve.peg.toNat : Int).natAbs ≤
        move.toNat := stepPeg_sub_natAbs_le hpos
    have capped : gap.toInt.natAbs * move.toNat ≤
        budget.toNat * (Scale.reserveToQuote * Scale.peg) := by
      rw [hmove]
      exact Nat.mul_div_le _ _
    have sized : gap.toInt * ((stepPeg curve.peg target move).toNat - curve.peg.toNat) ≤
        (gap.toInt.natAbs * move.toNat : Nat) := by
      refine Int.le_trans Int.le_natAbs ?_
      rw [Int.natAbs_mul]
      exact Int.ofNat_le.2 (Nat.mul_le_mul_left _ hmoved)
    rw [repegCost_toInt hcost, ← terminalQuoteGap_toInt hgap]
    apply tdiv_scales_le
    exact Int.le_trans sized (by exact_mod_cast capped)

end Curve

end PerpetualCurve
