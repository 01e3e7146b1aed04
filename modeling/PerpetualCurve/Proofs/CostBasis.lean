import PerpetualCurve.Proofs.Repeg
import PerpetualCurve.Proofs.Widening
import PerpetualCurve.Quote.Size

/-!
# The cost basis cancels

What traders paid for their positions is on record with the curve, and the spread reads it: the
inventory gap is the difference of two profits, each measured against the cost basis. The basis is
taken off both and cancels, so that it cannot be told from any quote what it was. Only where one of
the profits is too wide does it show, as a failure.

Two calculations on curves that differ in their cost basis are therefore compared where both have a
result. They agree step by step: a step that does not read the basis is the same on both curves, and
steps that agree still do when they are chained.
-/

namespace PerpetualCurve

namespace Outcome

variable {α β : Type}

/-- Where both calculations have a result, it is the same. -/
def Agree (x y : Outcome α) : Prop := ∀ a b, x = .ok a → y = .ok b → a = b

theorem Agree.of_eq {x y : Outcome α} (h : x = y) : Agree x y := by
  rintro a b ha hb
  cases ha.symm.trans (h.trans hb)
  rfl

theorem Agree.bind {x y : Outcome α} {f g : α → Outcome β} (h : Agree x y)
    (hfg : ∀ a, Agree (f a) (g a)) : Agree (x >>= f) (y >>= g) := by
  intro b b' hb hb'
  obtain ⟨a, ha, hb⟩ := bind_eq_ok_iff.1 hb
  obtain ⟨a', ha', hb'⟩ := bind_eq_ok_iff.1 hb'
  cases h a a' ha ha'
  exact hfg a b b' hb hb'

theorem Agree.ite {p : Prop} [Decidable p] {x x' y y' : Outcome α} (hx : Agree x x')
    (hy : Agree y y') : Agree (if p then x else y) (if p then x' else y') := by
  by_cases hp : p
  · rw [if_pos hp, if_pos hp]
    exact hx
  · rw [if_neg hp, if_neg hp]
    exact hy

end Outcome

namespace Curve

/-- The curve with another cost basis. -/
def withCostBasis (curve : Curve) (long short : Amount) : Curve :=
  { curve with longCostBasis := long, shortCostBasis := short }

variable {curve : Curve} {long short : Amount} {oracle : OracleReading}

/-! ## The repeg -/

theorem withScaledDepth_withCostBasis {numerator denominator : Amount} :
    (curve.withCostBasis long short).withScaledDepth numerator denominator =
      (·.withCostBasis long short) <$> curve.withScaledDepth numerator denominator := by
  simp only [withScaledDepth, map_bind]
  rfl

theorem withTerminal_withCostBasis :
    (curve.withCostBasis long short).withTerminal =
      (·.withCostBasis long short) <$> curve.withTerminal := by
  simp only [withTerminal, map_bind]
  rfl

theorem decideRepeg_withCostBasis :
    (curve.withCostBasis long short).decideRepeg oracle .constantProduct =
      curve.decideRepeg oracle .constantProduct := by
  simp only [decideRepeg, withScaledDepth_withCostBasis, withTerminal_withCostBasis, bind_map_left]
  rfl

theorem withCostBasis_setPeg {peg : Amount} :
    { curve.withCostBasis long short with peg } = { curve with peg }.withCostBasis long short := rfl

/-- The cost basis goes through a repeg as it is. -/
theorem updated_withCostBasis :
    (curve.withCostBasis long short).updated oracle .constantProduct =
      (·.withCostBasis long short) <$> curve.updated oracle .constantProduct := by
  simp only [updated, decideRepeg_withCostBasis, withScaledDepth_withCostBasis,
    withCostBasis_setPeg, withTerminal_withCostBasis, bind_map_left, apply_ite (Functor.map _),
    map_bind]
  rfl

theorem repeggedMarkPrice_withCostBasis :
    (curve.withCostBasis long short).repeggedMarkPrice oracle .constantProduct =
      curve.repeggedMarkPrice oracle .constantProduct := by
  simp only [repeggedMarkPrice, updated_withCostBasis, bind_map_left]
  rfl

/-! ## The half spread -/

section HalfSpread

variable {side : Side} {policy : SpreadPolicy} {mark half : Amount}

open Outcome (Agree)

/-- Here the basis is read, taken off both profits, and gone. -/
theorem inventoryGap_agree :
    Agree (curve.inventoryGap mark policy)
      ((curve.withCostBasis long short).inventoryGap mark policy) := by
  intro gap gap' h h'
  obtain ⟨netValue, localValue, hnet, hlocal, hgap⟩ := inventoryGap_toInt h
  obtain ⟨netValue', localValue', hnet', hlocal', hgap'⟩ := inventoryGap_toInt h'
  cases hnet.symm.trans hnet'
  cases hlocal.symm.trans hlocal'
  exact Signed.ext (hgap.trans hgap'.symm)

theorem effectiveLeverage_agree :
    Agree (curve.effectiveLeverage mark policy)
      ((curve.withCostBasis long short).effectiveLeverage mark policy) :=
  inventoryGap_agree.bind fun _ => .of_eq rfl

theorem inventoryScale_agree :
    Agree (curve.inventoryScale mark half policy)
      ((curve.withCostBasis long short).inventoryScale mark half policy) := by
  -- over a fee pool that is not funded the leverage is not asked for
  exact .ite (.of_eq rfl) (effectiveLeverage_agree.bind fun _ => .of_eq rfl)

theorem skewedSpread_agree :
    Agree (curve.skewedSpread side policy mark half)
      ((curve.withCostBasis long short).skewedSpread side policy mark half) :=
  .ite (inventoryScale_agree.bind fun _ => .of_eq rfl) (.of_eq rfl)

theorem halfSpread_agree :
    Agree (curve.halfSpread side oracle policy)
      ((curve.withCostBasis long short).halfSpread side oracle policy) := by
  refine .ite (.of_eq rfl) ?_
  refine Agree.bind (.of_eq rfl) fun mark => ?_
  refine Agree.bind (.of_eq rfl) fun gap => ?_
  refine Agree.bind (.of_eq rfl) fun half => ?_
  exact skewedSpread_agree

end HalfSpread

/-! ## Quotes and trade sizes -/

section Quotes

variable {side : Side} {policy : SpreadPolicy} {reading : Option OracleReading} {limit : Amount}

open Outcome (Agree)

theorem spreadReserves_agree :
    Agree (curve.spreadReserves side oracle policy)
      ((curve.withCostBasis long short).spreadReserves side oracle policy) :=
  halfSpread_agree.bind fun _ => .of_eq rfl

theorem projectedReserves_agree :
    Agree (curve.projectedReserves side oracle .constantProduct policy)
      ((curve.withCostBasis long short).projectedReserves side oracle .constantProduct policy) := by
  unfold projectedReserves
  rw [updated_withCostBasis, bind_map_left]
  refine Agree.bind (.of_eq rfl) fun updated => ?_
  exact spreadReserves_agree.bind fun _ => .of_eq rfl

theorem bidAsk_agree :
    Agree (curve.bidAsk oracle .constantProduct policy)
      ((curve.withCostBasis long short).bidAsk oracle .constantProduct policy) := by
  unfold bidAsk
  rw [updated_withCostBasis, bind_map_left]
  refine Agree.bind (.of_eq rfl) fun updated => ?_
  refine spreadReserves_agree.bind fun asking => ?_
  exact spreadReserves_agree.bind fun bidding => .of_eq rfl

theorem tradeStart_agree :
    Agree (curve.tradeStart side reading .constantProduct policy)
      ((curve.withCostBasis long short).tradeStart side reading .constantProduct policy) := by
  cases reading with
  | some oracle => exact projectedReserves_agree.bind fun _ => .of_eq rfl
  | none =>
    refine Agree.bind (.of_eq rfl) fun mark => ?_
    refine Agree.bind (.of_eq rfl) fun signed => ?_
    exact spreadReserves_agree.bind fun _ => .of_eq rfl

theorem maxTrade_agree :
    Agree (curve.maxTrade limit side reading .constantProduct policy)
      ((curve.withCostBasis long short).maxTrade limit side reading .constantProduct policy) := by
  -- the rest of the calculation stands in both branches of the guard
  refine .ite (Agree.bind (.of_eq rfl) fun _ => ?_) ?_ <;>
    exact tradeStart_agree.bind fun _ => .of_eq rfl

end Quotes

/-- The cost basis has no influence on anything a curve is asked. A repeg is the same to the error,
and what goes through the spread is the same wherever both calculations have a result. -/
theorem answers_agree_withCostBasis (curve : Curve) (long short : Amount) (side : Side)
    (oracle : OracleReading) (reading : Option OracleReading) (limit : Amount)
    (policy : SpreadPolicy) :
    (curve.withCostBasis long short).decideRepeg oracle .constantProduct =
      curve.decideRepeg oracle .constantProduct ∧
    (curve.withCostBasis long short).updated oracle .constantProduct =
      (·.withCostBasis long short) <$> curve.updated oracle .constantProduct ∧
    (curve.withCostBasis long short).repeggedMarkPrice oracle .constantProduct =
      curve.repeggedMarkPrice oracle .constantProduct ∧
    Outcome.Agree (curve.halfSpread side oracle policy)
      ((curve.withCostBasis long short).halfSpread side oracle policy) ∧
    Outcome.Agree (curve.spreadReserves side oracle policy)
      ((curve.withCostBasis long short).spreadReserves side oracle policy) ∧
    Outcome.Agree (curve.projectedReserves side oracle .constantProduct policy)
      ((curve.withCostBasis long short).projectedReserves side oracle .constantProduct policy) ∧
    Outcome.Agree (curve.bidAsk oracle .constantProduct policy)
      ((curve.withCostBasis long short).bidAsk oracle .constantProduct policy) ∧
    Outcome.Agree (curve.maxTrade limit side reading .constantProduct policy)
      ((curve.withCostBasis long short).maxTrade limit side reading .constantProduct policy) :=
  ⟨decideRepeg_withCostBasis, updated_withCostBasis, repeggedMarkPrice_withCostBasis,
    halfSpread_agree, spreadReserves_agree, projectedReserves_agree, bidAsk_agree, maxTrade_agree⟩

/-- A curve like `leveraged` with a fee pool that its gap is half of: the factor of the skew is what
the leverage makes it. -/
def halfLeveraged : Curve := { leveraged with feePool := .ofInt 10000000 }

/-- The same curve with the position on record at what it was bought for. -/
def halfLeveragedOnRecord : Curve :=
  halfLeveraged.withCostBasis (.ofNat 512345678) (.ofNat 498765)

theorem halfLeveraged_answers_agree :
    ∃ quotes quotes' trade trade',
      halfLeveraged.bidAsk { price := .ofInt 501234000000 } .constantProduct .costBasis =
        .ok quotes ∧
      halfLeveragedOnRecord.bidAsk { price := .ofInt 501234000000 } .constantProduct .costBasis =
        .ok quotes' ∧
      halfLeveraged.maxTrade (.ofNat 600000000000) .long none .constantProduct .costBasis =
        .ok trade ∧
      halfLeveragedOnRecord.maxTrade (.ofNat 600000000000) .long none .constantProduct
        .costBasis = .ok trade' ∧
      quotes = quotes' ∧ trade = trade' := by
  have quoted : halfLeveraged.bidAsk { price := .ofInt 501234000000 } .constantProduct
      .costBasis = .ok { bid := .ofNat 500979416326, ask := .ofNat 501622122026 } := by
    decide +kernel
  have quoted' : halfLeveragedOnRecord.bidAsk { price := .ofInt 501234000000 } .constantProduct
      .costBasis = .ok { bid := .ofNat 500979416326, ask := .ofNat 501622122026 } := by
    decide +kernel
  have sized : halfLeveraged.maxTrade (.ofNat 600000000000) .long none .constantProduct
      .costBasis = .ok { amount := .ofNat 867560756736601, side := .long } := by
    decide +kernel
  have sized' : halfLeveragedOnRecord.maxTrade (.ofNat 600000000000) .long none .constantProduct
      .costBasis = .ok { amount := .ofNat 867560756736601, side := .long } := by
    decide +kernel
  obtain ⟨-, -, -, -, -, -, quotes_agree, trades_agree⟩ :=
    answers_agree_withCostBasis halfLeveraged (.ofNat 512345678) (.ofNat 498765) .long
      { price := .ofInt 501234000000 } none (.ofNat 600000000000) .costBasis
  exact ⟨_, _, _, _, quoted, quoted', sized, sized', quotes_agree _ _ quoted quoted',
    trades_agree _ _ sized sized'⟩

-- A basis too wide for a profit does show: the calculation on one of the curves has no result.
example :
    (halfLeveraged.withCostBasis (.ofNat (2 ^ 128 - 1)) 0).halfSpread .long
      { price := .ofInt 501234000000 } .costBasis =
        .error (.castFailed .unsigned128 .signed128) := by
  decide +kernel

end Curve

end PerpetualCurve
