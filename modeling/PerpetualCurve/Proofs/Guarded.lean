import PerpetualCurve.Engine
import PerpetualCurve.Proofs.Causes
import PerpetualCurve.Proofs.Monotone
import PerpetualCurve.Proofs.Spread

/-!
# Steps without a check

A step that has no check of its own would stop a calculation with the cause `escaped` where it left
its range. None does, at any width: a divisor is a constant, or was compared with zero before; what
is subtracted was compared with what it is taken from; a factor is a constant that the wider type
has room for, or a sign.

An engine asks its cost model, and passes on what that fails for. So the answers of an engine are
guarded if those of its cost model are, as those of the constant-product model are.
-/

namespace PerpetualCurve

/-- The causes that a check reports, as opposed to a step without one. -/
@[simp] def PricingError.IsReported : PricingError → Prop
  | escaped _ => False
  | _ => True

namespace Outcome

variable {α : Type} {x : Outcome α}

/-- No step without a check leaves its range: whatever fails the calculation, a check reports. -/
abbrev Guarded (x : Outcome α) : Prop := x.FailsFor PricingError.IsReported

theorem guarded_iff : x.Guarded ↔ ∀ operation, x ≠ .error (.escaped operation) := by
  constructor
  · intro h operation
    exact h.ne_error id
  · intro h e he
    cases e with
    | escaped operation => exact h operation he
    | _ => trivial

theorem FailsFor.guarded (h : x.FailsFor PricingError.IsArithmetic) : x.Guarded :=
  guarded_iff.2 fun _ => h.ne_error id

@[simp] theorem failsFor_unsigned_toDecimal (a : Amount) :
    FailsFor PricingError.IsArithmetic a.toDecimal := by
  simp [Unsigned.toDecimal]

@[simp] theorem failsFor_signed_toDecimal (s : SignedAmount) :
    FailsFor PricingError.IsArithmetic s.toDecimal := by
  simp [Signed.toDecimal]

end Outcome

open Outcome (FailsFor)

/-! ## The half spread -/

/-- The target is divided by any half spread but zero: the quotient is no larger than the target. -/
theorem Decimal.maxTarget_div?_ne_none {half : Amount} {whole : Decimal}
    (whole_eq : half.toDecimal = .ok whole) (pos : 0 < whole) : maxTarget.div? whole ≠ none := by
  have hw := Unsigned.toDecimal_eq_ok whole_eq
  rw [zero_lt_iff, hw.1, Int.natCast_pos] at pos
  have nonneg : 0 ≤ roundHalfEven maxTargetSpread half.toNat := roundHalfEven_nonneg _ (by decide)
  have within : roundHalfEven maxTargetSpread half.toNat ≤ maxTargetSpread := by
    apply roundHalfEven_le pos
    calc 2 * (maxTargetSpread : Int)
        < (2 * maxTargetSpread + 1) * 1 := by omega
      _ ≤ (2 * maxTargetSpread + 1) * half.toNat :=
          Int.mul_le_mul_of_nonneg_left (Int.natCast_pos.2 pos) (by omega)
  have target : maxTargetSpread = 20000 := rfl
  have fits : (roundHalfEven maxTargetSpread half.toNat).natAbs < 2 ^ 96 := by omega
  obtain ⟨meeting, hmeeting⟩ := exists_ofFraction? fits
  rw [div?_of_whole (m := maxTargetSpread) ⟨rfl, rfl⟩ hw pos, hmeeting]
  nofun

theorem scaleSpread_arithmetic {half : Amount} {scale : Decimal} :
    FailsFor PricingError.IsArithmetic (scaleSpread half scale) := by
  simp [scaleSpread]

namespace Curve

section Spread

variable {curve : Curve} {side : Side} {oracle : OracleReading} {policy : SpreadPolicy}
  {mark half : Amount} {gap : SignedAmount}

theorem inventoryGap_arithmetic :
    FailsFor PricingError.IsArithmetic (curve.inventoryGap mark policy) := by
  cases policy <;> simp [inventoryGap, netInventoryValue, localInventoryValue, netCostBasis]

theorem effectiveLeverage_arithmetic :
    FailsFor PricingError.IsArithmetic (curve.effectiveLeverage mark policy) := by
  cases policy <;> simp [effectiveLeverage, inventoryGap_arithmetic]

/-- The quotient that meets the target is asked for only where the half spread is above zero. -/
theorem inventoryScale_arithmetic :
    FailsFor PricingError.IsArithmetic (curve.inventoryScale mark half policy) := by
  simp only [inventoryScale, pure_bind, Outcome.failsFor_ite_iff, Outcome.failsFor_bind_iff,
    Outcome.failsFor_getDM_iff, Outcome.getDM_eq_ok_iff, Outcome.failsFor_unsigned_toDecimal,
    effectiveLeverage_arithmetic, PricingError.IsArithmetic, Outcome.failsFor_pure, implies_true,
    and_true, true_and, and_imp, imp_false]
  -- the leverage is asked for over a funded pool only, but the rest is the same
  constructor
  · intro _ _ _ whole whole_eq _ _ pos _
    exact Decimal.maxTarget_div?_ne_none whole_eq pos
  · intro _ _ _ _ _ whole whole_eq _ _ pos _
    exact Decimal.maxTarget_div?_ne_none whole_eq pos

theorem retreatedSpread_arithmetic :
    FailsFor PricingError.IsArithmetic (retreatedSpread side oracle policy gap half) := by
  cases policy <;> simp [retreatedSpread]

theorem skewedSpread_arithmetic :
    FailsFor PricingError.IsArithmetic (curve.skewedSpread side policy mark half) := by
  simp [skewedSpread, inventoryScale_arithmetic, scaleSpread_arithmetic]

theorem halfSpread_arithmetic :
    FailsFor PricingError.IsArithmetic (curve.halfSpread side oracle policy) := by
  simp [halfSpread, markPrice, priceOf_arithmetic, oracleMarkSpread_arithmetic,
    retreatedSpread_arithmetic, skewedSpread_arithmetic]

/-! ## Shifted reserves and trade sizes -/

/-- A half spread above zero divides the spread scale. The quote reserve is divided by what comes
out only where that is not zero, and the shift taken off only where it is less than the reserve. -/
theorem shiftedQuote_guarded (nonzero : half.toNat ≠ 0) :
    (curve.shiftedQuote side half).Guarded := by
  cases side with
  | long => simp [shiftedQuote, nonzero]
  | short =>
    simp only [shiftedQuote, Outcome.throw_bind, Outcome.failsFor_bind_iff,
      Outcome.failsFor_divide_iff, nonzero, PricingError.IsReported, Outcome.failsFor_ite_iff,
      Outcome.failsFor_error_iff, Outcome.failsFor_unsigned_checked_iff,
      Outcome.failsFor_difference_iff, Unsigned.checked_eq_ok_iff, Nat.not_le, Nat.not_lt,
      not_false_eq_true, imp_false, implies_true, true_and]
    intro _ _ divisor_ne
    refine ⟨divisor_ne, fun shift _ covered => ?_⟩
    have quote_lt := curve.quote.toNat_lt
    exact ⟨by omega, fun narrowed hnarrowed => by omega⟩

theorem spreadReserves_guarded : (curve.spreadReserves side oracle policy).Guarded := by
  simp only [spreadReserves, invariant, Outcome.failsFor_bind_iff, Outcome.failsFor_ite_iff,
    halfSpread_arithmetic.guarded, (Outcome.failsFor_squareDepth _).guarded,
    (Outcome.failsFor_narrow _ _).guarded, Outcome.failsFor_divide_iff, PricingError.IsReported,
    Outcome.failsFor_pure, implies_true, and_true, true_and]
  intro spread _ nonzero
  exact shiftedQuote_guarded nonzero

end Spread

end Curve

section Sized

variable {sqrtK peg limit start finish : Amount}

/-- The limit in the divisor is scaled by a constant, which 256 digits have room for. -/
theorem baseAtPrice_arithmetic :
    FailsFor PricingError.IsArithmetic (baseAtPrice sqrtK peg limit) := by
  have divisor_lt : limit.toNat * Scale.peg < 2 ^ 256 := by
    have := limit.toNat_lt
    unfold Scale.peg
    omega
  simp [baseAtPrice, Nat.not_le.2 divisor_lt]

/-- Of two base reserves the smaller one is taken off the larger one. -/
theorem tradeBetween_arithmetic :
    FailsFor PricingError.IsArithmetic (tradeBetween start finish) := by
  unfold tradeBetween
  split
  case isTrue sale => simp [Nat.le_of_lt sale]
  case isFalse no_sale =>
    split
    case isTrue purchase => simp [Nat.le_of_lt purchase]
    case isFalse same => simp

end Sized

/-! ## Under any costs -/

/-- The answers of a cost model are guarded. -/
structure CostModel.Guarded (costs : CostModel) : Prop where
  repegCost (curve : Curve) (peg : Amount) : (costs.repegCost curve peg).Guarded
  depthCost (curve : Curve) (numerator denominator : Amount) :
    (costs.depthCost curve numerator denominator).Guarded
  budgetedPeg (curve : Curve) (budget price : Amount) :
    (costs.budgetedPeg curve budget price).Guarded

theorem CostModel.constantProduct_guarded : CostModel.constantProduct.Guarded where
  repegCost _ _ := Curve.repegCost_arithmetic.guarded
  depthCost _ _ _ := Curve.depthCost_arithmetic.guarded
  budgetedPeg _ _ _ := Curve.budgetedPeg_arithmetic.guarded

theorem OracleReading.positivePrice_guarded {oracle : OracleReading} :
    oracle.positivePrice.Guarded := by
  simp [positivePrice, (Outcome.failsFor_toUnsigned _).guarded]

namespace Curve

variable {curve : Curve} {side : Side} {oracle : OracleReading} {policy : SpreadPolicy}

/-- An amount below zero is refused before any step. -/
theorem reservesAfterSwap_guarded {asset : Asset} {amount : SignedAmount} {flow : Flow} :
    (curve.reservesAfterSwap asset amount flow).Guarded := by
  by_cases negative : amount.toInt < 0
  · simp [reservesAfterSwap, negative]
  · exact (reservesAfterSwap_arithmetic (Int.not_lt.1 negative)).guarded

theorem terminalPrice_guarded : curve.terminalPrice.Guarded := by
  simp [terminalPrice, terminalReserves, reservesAfterSwap_guarded, priceOf_arithmetic.guarded]

section Costs

variable {costs : CostModel} {limit : Amount} {reading : Option OracleReading} (h : costs.Guarded)

include h

theorem decideRepeg_guarded : (curve.decideRepeg oracle costs).Guarded := by
  simp [decideRepeg, OracleReading.positivePrice_guarded, pegForPrice_arithmetic.guarded,
    h.repegCost, h.depthCost, h.budgetedPeg, repegBudget_arithmetic.guarded,
    (Outcome.failsFor_toSigned _).guarded, withScaledDepth_arithmetic.guarded,
    withTerminal_arithmetic.guarded]

theorem updated_guarded : (curve.updated oracle costs).Guarded := by
  simp [updated, decideRepeg_guarded h, withScaledDepth_arithmetic.guarded,
    withTerminal_arithmetic.guarded]

theorem repeggedMarkPrice_guarded : (curve.repeggedMarkPrice oracle costs).Guarded := by
  simp [repeggedMarkPrice, updated_guarded h, markPrice, priceOf_arithmetic.guarded]

theorem projectedReserves_guarded : (curve.projectedReserves side oracle costs policy).Guarded := by
  simp [projectedReserves, updated_guarded h, spreadReserves_guarded]

theorem bidAsk_guarded : (curve.bidAsk oracle costs policy).Guarded := by
  simp [bidAsk, updated_guarded h, spreadReserves_guarded, priceOf_arithmetic.guarded]

theorem maxTrade_guarded : (curve.maxTrade limit side reading costs policy).Guarded := by
  cases reading with
  | some oracle =>
    simp [maxTrade, tradeStart, projectedReserves_guarded h, baseAtPrice_arithmetic.guarded,
      tradeBetween_arithmetic.guarded]
  | none =>
    simp [maxTrade, tradeStart, markPrice, priceOf_arithmetic.guarded, spreadReserves_guarded,
      (Outcome.failsFor_toSigned _).guarded, baseAtPrice_arithmetic.guarded,
      tradeBetween_arithmetic.guarded]

end Costs

end Curve

/-- Every change of a curve is guarded, whether it has a result or not. -/
theorem Engine.apply_guarded {engine : Engine} (h : engine.costs.Guarded) (curve : Curve)
    (action : Action) : (engine.apply curve action).Guarded := by
  cases action with
  | start base quote peg => simp [apply, Curve.balanced, (Outcome.failsFor_narrow _ _).guarded,
      (Outcome.failsFor_squareDepth _).guarded]
  | setBaseSpread spread => simp [apply]
  | setIntensity intensity => simp [apply]
  | setFees exchangeFees feePool => simp [apply]
  | setCostBasis long short => simp [apply]
  | setNetBase netBase => exact Curve.withTerminal_arithmetic.guarded
  | scaleDepth numerator denominator => exact Curve.withScaledDepth_arithmetic.guarded
  | recomputeTerminal => exact Curve.withTerminal_arithmetic.guarded
  | update oracle => exact Curve.updated_guarded h
  | swap asset amount flow => simp [apply, Curve.reservesAfterSwap_guarded]

/-- Whatever an engine is asked about a curve, and whatever is asked on the way there, no step
without a check leaves its range. The costs of the constant-product model keep to that too. -/
theorem Engine.answers_guarded {engine : Engine} (guarded : engine.costs.Guarded) (curve : Curve) :
    (∀ numerator denominator, (curve.depthCost numerator denominator).Guarded) ∧
    CostModel.constantProduct.Guarded ∧
    (∀ base quote peg, (priceOf base quote peg).Guarded) ∧
    (∀ sqrtK peg limit, (baseAtPrice sqrtK peg limit).Guarded) ∧
    (∀ start finish, (tradeBetween start finish).Guarded) ∧
    (∀ limit side reading, (engine.maxTrade curve limit side reading).Guarded) ∧
    (∀ mark half policy, (curve.inventoryScale mark half policy).Guarded) ∧
    (∀ side oracle, (engine.halfSpread curve side oracle).Guarded ∧
      (engine.spreadReserves curve side oracle).Guarded ∧
      (engine.projectedReserves curve side oracle).Guarded) ∧
    (∀ oracle, (engine.decideRepeg curve oracle).Guarded ∧
      (engine.markPrice curve oracle).Guarded ∧ (engine.bidAsk curve oracle).Guarded) ∧
    curve.terminalPrice.Guarded ∧
    ∀ action, (engine.apply curve action).Guarded := by
  refine ⟨fun _ _ => Curve.depthCost_arithmetic.guarded, CostModel.constantProduct_guarded,
    fun _ _ _ => priceOf_arithmetic.guarded, fun _ _ _ => baseAtPrice_arithmetic.guarded,
    fun _ _ => tradeBetween_arithmetic.guarded, fun _ _ _ => Curve.maxTrade_guarded guarded,
    fun _ _ _ => Curve.inventoryScale_arithmetic.guarded, fun side oracle => ?_, fun oracle => ?_,
    Curve.terminalPrice_guarded, apply_guarded guarded curve⟩
  · exact ⟨Curve.halfSpread_arithmetic.guarded, Curve.spreadReserves_guarded,
      Curve.projectedReserves_guarded guarded⟩
  · exact ⟨Curve.decideRepeg_guarded guarded, Curve.repeggedMarkPrice_guarded guarded,
      Curve.bidAsk_guarded guarded⟩

/-- A curve whose depth and net base are near the ends of their range. -/
def brink : Curve where
  base := .ofNat (2 ^ 126)
  quote := .ofNat 2
  sqrtK := .ofNat (2 ^ 64 - 1)
  peg := .ofNat 1
  netBase := .ofInt (1 - 2 ^ 126)
  terminalQuote := .ofNat 2
  baseSpread := .ofNat 2000000

theorem brink_answers_guarded :
    brink.depthCost (.ofNat 3) (.ofNat 2) = .ok (.ofInt 17014118346046923173168730371) ∧
    brink.spreadReserves .short { price := .ofInt 1 } .costBasis =
      .ok { base := .ofNat 340282366920938463426481119284349108225, quote := .ofNat 1 } ∧
    (brink.depthCost (.ofNat (2 ^ 128 - 1)) (.ofNat 1)).Guarded ∧
    ∀ limit, (brink.maxTrade limit .short none .constantProduct .costBasis).Guarded := by
  obtain ⟨depthCost, -, -, -, -, maxTrade, -⟩ :=
    @Engine.answers_guarded {} CostModel.constantProduct_guarded brink
  exact ⟨by decide +kernel, by decide +kernel, depthCost _ _,
    fun limit => maxTrade limit .short none⟩

end PerpetualCurve
