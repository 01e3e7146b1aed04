import Mathlib.Tactic.GCongr
import Mathlib.Tactic.Ring
import PerpetualCurve.Proofs.Budget
import PerpetualCurve.Proofs.Causes
import PerpetualCurve.Proofs.Closest

/-!
# What shrinking the depth costs

Closing the net position pays out the exposure divided by the base reserve that closing leaves. On
a curve scaled by less than one the exposure shrinks by the whole factor, the base that is left by
less than that if the position is long and by more if it is short. So a shrink frees fees, whichever
side the position is on.

The scaled base reserve is rounded down, though. For a short position this works the same way; for a
long one it works against it, and prevails where the position is smaller than what was cut off. Then
a shrink is an expense, and a repeg that needs it fails. The expense is at most what a unit of base
is worth.
-/

namespace PerpetualCurve

/-! ## Payouts of a scaled total -/

section Payout

variable {scale total factor closed scaledClosed : Nat}

/-- What is left with at least its share of the base pays out no more than before. -/
theorem payout_le_of_share (pos : 0 < closed) (share : factor * closed ≤ scale * scaledClosed) :
    total * factor / scale / scaledClosed ≤ total / closed := by
  rw [Nat.div_div_eq_div_mul, Nat.le_div_iff_mul_le pos]
  set paid := total * factor / (scale * scaledClosed)
  have paid_le : paid * (scale * scaledClosed) ≤ total * factor := Nat.div_mul_le_self _ _
  rcases Nat.eq_zero_or_pos factor with none | some
  · have nothing : paid = 0 := by simp [paid, none]
    rw [nothing, Nat.zero_mul]
    exact Nat.zero_le _
  · apply Nat.le_of_mul_le_mul_right _ some
    calc paid * closed * factor = paid * (factor * closed) := by ring
      _ ≤ paid * (scale * scaledClosed) := by gcongr
      _ ≤ total * factor := paid_le

/-- What is left with at most its share pays out no less. -/
theorem le_payout_of_share (pos : 0 < scale * scaledClosed)
    (share : scale * scaledClosed ≤ factor * closed) :
    total / closed ≤ total * factor / scale / scaledClosed := by
  rw [Nat.div_div_eq_div_mul, Nat.le_div_iff_mul_le pos]
  calc total / closed * (scale * scaledClosed) ≤ total / closed * (factor * closed) := by gcongr
    _ = total / closed * closed * factor := by ring
    _ ≤ total * factor := by gcongr; exact Nat.div_mul_le_self _ _

/-- What is short of its share by a unit of base pays out at most what this unit is worth more. -/
theorem payout_le_add_unit (pos : 0 < closed) (scaled_pos : 0 < scaledClosed)
    (scale_pos : 0 < scale) (share : factor * closed ≤ scale * (scaledClosed + 1)) :
    total * factor / scale / scaledClosed ≤
      total / closed + (total / (closed * scaledClosed) + 1) := by
  rw [Nat.div_div_eq_div_mul]
  set paid := total * factor / (scale * scaledClosed)
  have paid_le : paid * (scale * scaledClosed) ≤ total * factor := Nat.div_mul_le_self _ _
  have before : total < closed * (total / closed + 1) := Nat.lt_mul_div_succ _ pos
  have scaled : paid * (closed * scaledClosed) ≤ total * (scaledClosed + 1) := by
    apply Nat.le_of_mul_le_mul_right _ scale_pos
    calc paid * (closed * scaledClosed) * scale = paid * (scale * scaledClosed) * closed := by ring
      _ ≤ total * factor * closed := by gcongr
      _ = total * (factor * closed) := by ring
      _ ≤ total * (scale * (scaledClosed + 1)) := by gcongr
      _ = total * (scaledClosed + 1) * scale := by ring
  have compared : paid * (closed * scaledClosed) ≤
      (total / closed + 1) * (closed * scaledClosed) + total := by
    calc paid * (closed * scaledClosed) ≤ total * scaledClosed + total := scaled
      _ ≤ closed * (total / closed + 1) * scaledClosed + total := by gcongr
      _ = (total / closed + 1) * (closed * scaledClosed) + total := by ring
  have excess : (paid - (total / closed + 1)) * (closed * scaledClosed) ≤ total := by
    rw [Nat.sub_mul]
    omega
  have worth := (Nat.le_div_iff_mul_le (Nat.mul_pos pos scaled_pos)).2 excess
  omega

end Payout

/-- At the quote scale something is left of a product from one whole unit on. -/
theorem tdiv_scales_pos_iff {product : Int} :
    0 < (product.tdiv Scale.reserveToQuote).tdiv Scale.peg ↔
      (Scale.reserveToQuote * Scale.peg : Nat) ≤ product := by
  by_cases nonneg : 0 ≤ product
  · rw [tdiv_scales_eq nonneg, Int.natCast_pos, Nat.div_pos_iff]
    unfold Scale.reserveToQuote Scale.reserve Scale.quote Scale.peg
    omega
  · have nonpos : (product.tdiv Scale.reserveToQuote).tdiv Scale.peg ≤ 0 := by
      apply Curve.tdiv_scales_le
      omega
    omega

theorem tdiv_scales_mul_le {product : Int} (nonneg : 0 ≤ product) :
    (product.tdiv Scale.reserveToQuote).tdiv Scale.peg *
      (Scale.reserveToQuote * Scale.peg : Nat) ≤ product := by
  have rounded := Nat.div_mul_le_self product.natAbs (Scale.reserveToQuote * Scale.peg)
  rw [tdiv_scales_eq nonneg]
  calc _ = ((product.natAbs / (Scale.reserveToQuote * Scale.peg) *
        (Scale.reserveToQuote * Scale.peg) : Nat) : Int) := (Int.natCast_mul _ _).symm
    _ ≤ product := by omega

namespace Curve

/-! ## The payout of a net position -/

/-- What closing the net position pays out, times the base reserve that is left then. -/
def exposure (curve : Curve) : Nat :=
  curve.quote.toNat * curve.netBase.toInt.natAbs * curve.peg.toNat

/-- The base reserve `base` once the net position is closed against it. -/
def closedAgainst (curve : Curve) (base : Nat) : Nat := (base + curve.netBase.toInt).toNat

/-- The base reserve scaled by `factor`, a ratio at the price scale. -/
def scaledBase (curve : Curve) (factor : Nat) : Nat := curve.base.toNat * factor / Scale.price

/-- The ratio `numerator / denominator` at the price scale, rounded down. -/
def depthFactor (numerator denominator : Amount) : Nat :=
  numerator.toNat * Scale.price / denominator.toNat

/-- What closing the net position pays out, in units of reserve times peg. -/
def payoutBefore (curve : Curve) : Nat := curve.exposure / curve.closedAgainst curve.base.toNat

/-- What closing it pays out once the depth is scaled by `factor`. -/
def payoutAfter (curve : Curve) (factor : Nat) : Nat :=
  curve.exposure * factor / Scale.price / curve.closedAgainst (curve.scaledBase factor)

variable {curve : Curve} {numerator denominator : Amount} {cost : SignedAmount}

theorem depthCost_of_flat (h : curve.depthCost numerator denominator = .ok cost)
    (flat : curve.netBase.toInt = 0) : cost.toInt = 0 := by
  simp only [depthCost, flat, if_true, Outcome.pure_eq_ok_iff] at h
  rw [← h, Signed.toInt_zero]

/-- The cost for a position is the change of its payout, with the sign of the position. Closing it
leaves some base before and after. -/
theorem depthCost_of_open (h : curve.depthCost numerator denominator = .ok cost)
    (held : curve.netBase.toInt ≠ 0) :
    0 < curve.closedAgainst curve.base.toNat ∧
    0 < curve.closedAgainst (curve.scaledBase (depthFactor numerator denominator)) ∧
    cost.toInt = ((((curve.payoutAfter (depthFactor numerator denominator) : Int) -
      curve.payoutBefore) * curve.netBase.toInt.sign).tdiv
        Scale.reserveToQuote).tdiv Scale.peg := by
  simp only [depthCost, held, if_false, Outcome.bind_eq_ok_iff, Outcome.pure_eq_ok_iff,
    mulDiv_eq_ok_iff, Unsigned.toSigned_eq_ok_iff, closedBase_eq_ok_iff,
    Unsigned.checked_eq_ok_iff, Signed.checked_eq_ok_iff, divide_eq_ok_iff, narrow_eq_ok_iff,
    Signed.toNat_magnitude] at h
  obtain ⟨factor, ⟨-, -, hfactor⟩, base, hbase, scaledReserve, ⟨-, -, hscaledReserve⟩, scaledBase,
    hscaledBase, closed, ⟨hclosed, closed_pos⟩, scaledClosed, ⟨hscaledClosed, scaledClosed_pos⟩,
    product, hproduct, scale, hscale, _, ⟨-, rfl⟩, before, hbefore, scaled, hscaled, _, ⟨-, rfl⟩,
    after, hafter, signedBefore, hsignedBefore, signedAfter, hsignedAfter, gap, hgap, change,
    hchange, negated, hnegated, rfl⟩ := h
  change factor.toNat = depthFactor numerator denominator at hfactor
  rw [hfactor] at hscaledReserve hscaled
  have exposure_eq : scale.toNat = curve.exposure := by rw [hscale, hproduct, exposure]
  have closed_eq : closed.toInt.natAbs = curve.closedAgainst curve.base.toNat := by
    unfold closedAgainst
    omega
  have scaledClosed_eq : scaledClosed.toInt.natAbs =
      curve.closedAgainst (curve.scaledBase (depthFactor numerator denominator)) := by
    unfold closedAgainst Curve.scaledBase
    omega
  rw [closed_eq, exposure_eq] at hbefore
  rw [scaledClosed_eq, hscaled, exposure_eq] at hafter
  refine ⟨by omega, by omega, ?_⟩
  rw [Signed.toInt_quotient, Signed.toInt_quotient, hnegated, hchange, hgap, hsignedBefore,
    hsignedAfter, hbefore, hafter, ← Int.neg_mul, Int.neg_sub]
  rfl

/-! ## Shares of the base -/

theorem depthFactor_le_price (shrinks : numerator.toNat < denominator.toNat) :
    depthFactor numerator denominator ≤ Scale.price := by
  apply Nat.div_le_of_le_mul
  exact Nat.mul_le_mul_right _ (Nat.le_of_lt shrinks)

section Share

variable {factor : Nat} (le_one : factor ≤ Scale.price)

include le_one

/-- A short position leaves at most its share of the base. -/
theorem share_of_short (short : curve.netBase.toInt ≤ 0) :
    Scale.price * curve.closedAgainst (curve.scaledBase factor) ≤
      factor * curve.closedAgainst curve.base.toNat := by
  have rounded : Scale.price * curve.scaledBase factor ≤ curve.base.toNat * factor :=
    Nat.mul_div_le _ _
  obtain ⟨size, hsize⟩ := Int.eq_ofNat_of_zero_le (Int.neg_nonneg_of_nonpos short)
  have closed_eq (base : Nat) : curve.closedAgainst base = base - size := by
    unfold closedAgainst
    omega
  have smaller : factor * size ≤ Scale.price * size := Nat.mul_le_mul_right _ le_one
  rw [closed_eq, closed_eq, Nat.mul_sub, Nat.mul_sub, Nat.mul_comm factor]
  omega

/-- A long position leaves more than its share by what the scaling spares of it, less what the
rounding cuts off. -/
theorem share_of_long (curve : Curve) (long : 0 ≤ curve.netBase.toInt) :
    factor * curve.closedAgainst curve.base.toNat +
        curve.netBase.toInt.toNat * (Scale.price - factor) =
      Scale.price * curve.closedAgainst (curve.scaledBase factor) +
        curve.base.toNat * factor % Scale.price := by
  have rounded : Scale.price * curve.scaledBase factor + curve.base.toNat * factor % Scale.price =
      curve.base.toNat * factor := Nat.div_add_mod _ _
  obtain ⟨size, hsize⟩ := Int.eq_ofNat_of_zero_le long
  obtain ⟨rest, hrest⟩ := Nat.exists_eq_add_of_le le_one
  have closed_eq (base : Nat) : curve.closedAgainst base = base + size := by
    unfold closedAgainst
    omega
  have rest_eq : Scale.price - factor = rest := by omega
  have size_eq : Scale.price * size = factor * size + size * rest := by rw [hrest]; ring
  rw [closed_eq, closed_eq, hsize, Int.toNat_natCast, rest_eq, Nat.mul_add, Nat.mul_add, size_eq,
    Nat.mul_comm factor]
  omega

end Share

/-! ## A shrink that is an expense -/

section Shrink

variable (h : curve.depthCost numerator denominator = .ok cost)
  (shrinks : numerator.toNat < denominator.toNat)

include h

/-- For a long position the cost is above zero from one quote unit of payout more on. -/
theorem depthCost_pos_iff_of_long (long : 0 < curve.netBase.toInt) :
    0 < cost.toInt ↔ curve.payoutBefore + Scale.reserveToQuote * Scale.peg ≤
      curve.payoutAfter (depthFactor numerator denominator) := by
  obtain ⟨-, -, hcost⟩ := depthCost_of_open h (by omega)
  rw [hcost, Int.sign_eq_one_of_pos long, Int.mul_one, tdiv_scales_pos_iff]
  omega

include shrinks

theorem depthCost_nonpos_of_short (short : curve.netBase.toInt < 0) : cost.toInt ≤ 0 := by
  obtain ⟨-, scaled_pos, hcost⟩ := depthCost_of_open h (by omega)
  have share := share_of_short (depthFactor_le_price shrinks) (Int.le_of_lt short)
  have grows : curve.payoutBefore ≤ curve.payoutAfter (depthFactor numerator denominator) :=
    le_payout_of_share (Nat.mul_pos (by decide) scaled_pos) share
  rw [hcost, Int.sign_eq_neg_one_of_neg short]
  apply tdiv_scales_le
  omega

/-- Only a long position can make a shrink an expense. -/
theorem long_of_depthCost_pos (pos : 0 < cost.toInt) : 0 < curve.netBase.toInt := by
  by_contra not_long
  rcases Int.lt_or_eq_of_le (Int.not_lt.1 not_long) with short | flat
  · have := depthCost_nonpos_of_short h shrinks short
    omega
  · have := depthCost_of_flat h flat
    omega

/-- The rounding cuts off more than the scaling spares of the position. -/
theorem rounding_of_depthCost_pos (pos : 0 < cost.toInt) :
    curve.netBase.toInt.toNat * (Scale.price - depthFactor numerator denominator) <
      curve.base.toNat * depthFactor numerator denominator % Scale.price := by
  have long := long_of_depthCost_pos h shrinks pos
  have more := (depthCost_pos_iff_of_long h long).1 pos
  obtain ⟨closed_pos, -, -⟩ := depthCost_of_open h (by omega)
  have share := share_of_long (depthFactor_le_price shrinks) curve (Int.le_of_lt long)
  by_contra fine
  have falls : curve.payoutAfter (depthFactor numerator denominator) ≤ curve.payoutBefore :=
    payout_le_of_share closed_pos (by omega)
  have unit_pos : 0 < Scale.reserveToQuote * Scale.peg := by decide
  omega

/-- The expense is at most what a unit of base is worth, up to a unit of the payout. -/
theorem depthCost_le_unit (pos : 0 < cost.toInt) :
    cost.toInt * (Scale.reserveToQuote * Scale.peg : Nat) ≤
      (curve.exposure / (curve.closedAgainst curve.base.toNat *
        curve.closedAgainst (curve.scaledBase (depthFactor numerator denominator))) + 1 : Nat) := by
  have long := long_of_depthCost_pos h shrinks pos
  have more := (depthCost_pos_iff_of_long h long).1 pos
  obtain ⟨closed_pos, scaled_pos, hcost⟩ := depthCost_of_open h (by omega)
  have share := share_of_long (depthFactor_le_price shrinks) curve (Int.le_of_lt long)
  have cut_off := Nat.mod_lt (curve.base.toNat * depthFactor numerator denominator)
    (show 0 < Scale.price by decide)
  have short_of_unit : depthFactor numerator denominator * curve.closedAgainst curve.base.toNat ≤
      Scale.price *
        (curve.closedAgainst (curve.scaledBase (depthFactor numerator denominator)) + 1) := by
    rw [Nat.mul_succ]
    omega
  have bounded : curve.payoutAfter (depthFactor numerator denominator) ≤ curve.payoutBefore + _ :=
    payout_le_add_unit closed_pos scaled_pos (by decide) short_of_unit
  rw [Int.sign_eq_one_of_pos long, Int.mul_one] at hcost
  calc cost.toInt * (Scale.reserveToQuote * Scale.peg : Nat)
      ≤ (curve.payoutAfter (depthFactor numerator denominator) : Int) - curve.payoutBefore := by
        rw [hcost]
        apply tdiv_scales_mul_le
        omega
    _ ≤ _ := by omega

end Shrink

/-! ## A repeg that fails for it -/

section NeverCostly

variable {n d : Amount} {c : SignedAmount}

theorem positivePrice_ne_costlyShrink {oracle : OracleReading} :
    oracle.positivePrice ≠ .error (.costlyShrink n d c) := by
  simp [OracleReading.positivePrice]

/-- A costly shrink is no arithmetic cause. -/
theorem ne_costlyShrink {α : Type} {x : Outcome α} (h : x.FailsFor PricingError.IsArithmetic) :
    x ≠ .error (.costlyShrink n d c) :=
  h.ne_error id

/-- The peg that meets the oracle has a cost, and the budget does not pay for it. -/
def Overbudget (curve : Curve) (oracle : OracleReading) : Prop :=
  ∃ price target cost budget, oracle.positivePrice = .ok price ∧
    pegForPrice curve.base curve.quote price = .ok target ∧ curve.repegCost target = .ok cost ∧
    curve.repegBudget = .ok budget ∧ budget.toNat < cost.toInt

/-- No other step of a repeg fails for a costly shrink. -/
theorem decideRepeg_eq_costlyShrink_iff {oracle : OracleReading} :
    curve.decideRepeg oracle .constantProduct = .error (.costlyShrink n d c) ↔
      n = shrinkNumerator ∧ d = shrinkDenominator ∧ curve.Overbudget oracle ∧
        curve.depthCost shrinkNumerator shrinkDenominator = .ok c ∧ 0 < c.toInt := by
  simp only [decideRepeg, CostModel.constantProduct, Outcome.bind_eq_error_iff,
    positivePrice_ne_costlyShrink, ne_costlyShrink pegForPrice_arithmetic,
    ne_costlyShrink repegCost_arithmetic, ne_costlyShrink repegBudget_arithmetic,
    Unsigned.toSigned_eq_error_iff, reduceCtorEq, and_false, false_or]
  constructor
  · rintro ⟨price, hprice, target, htarget, cost, hcost, budget, hbudget, limit, hlimit, h⟩
    rw [Unsigned.toSigned_eq_ok_iff] at hlimit
    split at h
    case isTrue affordable => exact absurd h Outcome.pure_ne_error
    case isFalse unaffordable =>
      simp only [Signed.toNat_magnitude, bind_pure_comp, Outcome.throw_bind,
        Outcome.bind_eq_error_iff, ne_costlyShrink depthCost_arithmetic,
        Outcome.ite_error_eq_error_iff, PricingError.costlyShrink.injEq,
        Unsigned.checked_eq_error_iff, reduceCtorEq, and_false,
        ne_costlyShrink withScaledDepth_arithmetic, ne_costlyShrink withTerminal_arithmetic,
        ne_costlyShrink budgetedPeg_arithmetic, Outcome.map_eq_error_iff,
        ne_costlyShrink repegCost_arithmetic, exists_const, or_self, or_false, ↓existsAndEq,
        and_true, false_or] at h
      obtain ⟨hfreed, expense, rfl, rfl⟩ := h
      have exceeds : budget.toNat < cost.toInt := by omega
      exact ⟨rfl, rfl, ⟨price, target, cost, budget, hprice, htarget, hcost, hbudget, exceeds⟩,
        hfreed, expense⟩
  · rintro ⟨rfl, rfl, overbudget, hfreed, expense⟩
    obtain ⟨price, target, cost, budget, hprice, htarget, hcost, hbudget, exceeds⟩ := overbudget
    obtain ⟨limit, hlimit⟩ := exists_toSigned_of_repegBudget hbudget
    refine ⟨price, hprice, target, htarget, cost, hcost, budget, hbudget, limit, hlimit, ?_⟩
    rw [Unsigned.toSigned_eq_ok_iff] at hlimit
    rw [if_neg (by omega)]
    simp [hfreed, expense]

end NeverCostly

/-- A shrink is an expense exactly where a long position is paid out at least one quote unit more by
the scaled curve. The position is then smaller than what the rounding cut off, and the expense is at
most what a unit of base is worth. A repeg fails for it exactly where its budget does not reach and
its shrink is such an expense, and never with a thousand units of base or more. -/
theorem depthCost_pos_iff (curve : Curve) :
    (∀ (numerator denominator : Amount) (cost : SignedAmount),
      numerator.toNat < denominator.toNat →
      curve.depthCost numerator denominator = .ok cost →
        (0 < cost.toInt ↔ 0 < curve.netBase.toInt ∧
          curve.payoutBefore + Scale.reserveToQuote * Scale.peg ≤
            curve.payoutAfter (depthFactor numerator denominator)) ∧
        (0 < cost.toInt →
          curve.netBase.toInt.toNat * (Scale.price - depthFactor numerator denominator) <
              curve.base.toNat * depthFactor numerator denominator % Scale.price ∧
            cost.toInt * (Scale.reserveToQuote * Scale.peg : Nat) ≤
              (curve.exposure / (curve.closedAgainst curve.base.toNat *
                curve.closedAgainst (curve.scaledBase (depthFactor numerator denominator))) +
                  1 : Nat))) ∧
    ∀ (oracle : OracleReading) (numerator denominator : Amount) (cost : SignedAmount),
      (curve.decideRepeg oracle .constantProduct =
          .error (.costlyShrink numerator denominator cost) ↔
        numerator = shrinkNumerator ∧ denominator = shrinkDenominator ∧ curve.Overbudget oracle ∧
          curve.depthCost shrinkNumerator shrinkDenominator = .ok cost ∧ 0 < cost.toInt) ∧
      (curve.decideRepeg oracle .constantProduct =
          .error (.costlyShrink numerator denominator cost) →
        0 < curve.netBase.toInt ∧ curve.netBase.toInt < 1000) := by
  constructor
  · intro numerator denominator cost shrinks h
    refine ⟨⟨fun pos => ?_, fun ⟨long, more⟩ => (depthCost_pos_iff_of_long h long).2 more⟩,
      fun pos => ⟨rounding_of_depthCost_pos h shrinks pos, depthCost_le_unit h shrinks pos⟩⟩
    have long := long_of_depthCost_pos h shrinks pos
    exact ⟨long, (depthCost_pos_iff_of_long h long).1 pos⟩
  · intro oracle numerator denominator cost
    refine ⟨decideRepeg_eq_costlyShrink_iff, fun failed => ?_⟩
    obtain ⟨rfl, rfl, -, hcost, pos⟩ := decideRepeg_eq_costlyShrink_iff.1 failed
    have shrinks : shrinkNumerator.toNat < shrinkDenominator.toNat := by decide
    have long := long_of_depthCost_pos hcost shrinks pos
    have cut_off := rounding_of_depthCost_pos hcost shrinks pos
    have rest := Nat.mod_lt (curve.base.toNat * depthFactor shrinkNumerator shrinkDenominator)
      (show 0 < Scale.price by decide)
    have spared : Scale.price - depthFactor shrinkNumerator shrinkDenominator = 10000000 := by
      decide
    have price_eq : Scale.price = 10000000000 := rfl
    rw [spared] at cut_off
    omega

/-- A balanced curve with 1001 units of base, against which traders are long one unit. The shrink
leaves 999 units where exactly 999.999 would be left. -/
def thinBase : Curve where
  base := .ofNat 1001
  quote := .ofNat 1001000000000000
  sqrtK := .ofNat 1001000000
  peg := .ofNat 1000
  netBase := .ofInt 1
  terminalQuote := .ofNat 1000000998003992

theorem thinBase_depthCost :
    thinBase.depthCost shrinkNumerator shrinkDenominator = .ok (.ofInt 99) := by
  decide +kernel

theorem thinBase_overbudget :
    thinBase.Overbudget { price := .ofInt 11000000000000000000000 } := by
  refine ⟨.ofNat 11000000000000000000000, .ofNat 1100, .ofInt 9990, 0, ?_⟩
  decide +kernel

/-- The shrink costs 99 quote units, as much as a unit of base is worth, and the repeg to a tenth
above the mark fails for it. -/
theorem thinBase_depthCost_pos :
    thinBase.depthCost shrinkNumerator shrinkDenominator = .ok (.ofInt 99) ∧
    (0 < thinBase.netBase.toInt ∧
      thinBase.payoutBefore + Scale.reserveToQuote * Scale.peg ≤
        thinBase.payoutAfter (depthFactor shrinkNumerator shrinkDenominator)) ∧
    thinBase.netBase.toInt.toNat *
        (Scale.price - depthFactor shrinkNumerator shrinkDenominator) <
      thinBase.base.toNat * depthFactor shrinkNumerator shrinkDenominator % Scale.price ∧
    thinBase.decideRepeg { price := .ofInt 11000000000000000000000 } .constantProduct =
      .error (.costlyShrink shrinkNumerator shrinkDenominator (.ofInt 99)) ∧
    0 < thinBase.netBase.toInt ∧ thinBase.netBase.toInt < 1000 := by
  obtain ⟨costs, fails⟩ := depthCost_pos_iff thinBase
  have pos : 0 < (Signed.ofInt 99 : SignedAmount).toInt := by decide
  obtain ⟨paid_iff, bounds⟩ := costs _ _ _ (by decide) thinBase_depthCost
  obtain ⟨fails_iff, small⟩ := fails { price := .ofInt 11000000000000000000000 } shrinkNumerator
    shrinkDenominator (.ofInt 99)
  have failed := fails_iff.2 ⟨rfl, rfl, thinBase_overbudget, thinBase_depthCost, pos⟩
  exact ⟨thinBase_depthCost, paid_iff.1 pos, (bounds pos).1, failed, small failed⟩

/-- Shrinking the depth can be an expense, and a repeg can fail for it. -/
theorem not_depthCost_nonpos :
    (¬ ∀ (curve : Curve) (numerator denominator : Amount) (cost : SignedAmount),
      numerator.toNat < denominator.toNat →
        curve.depthCost numerator denominator = .ok cost → cost.toInt ≤ 0) ∧
    ¬ ∀ (curve : Curve) (oracle : OracleReading) (numerator denominator : Amount)
      (cost : SignedAmount),
      curve.decideRepeg oracle .constantProduct ≠
        .error (.costlyShrink numerator denominator cost) := by
  constructor
  · intro never
    have free := never _ _ _ _ (by decide) thinBase_depthCost
    exact absurd free (by decide)
  · intro never
    refine never thinBase { price := .ofInt 11000000000000000000000 } _ _ _
      (decideRepeg_eq_costlyShrink_iff.2 ⟨rfl, rfl, thinBase_overbudget, thinBase_depthCost, ?_⟩)
    decide

end Curve

end PerpetualCurve
