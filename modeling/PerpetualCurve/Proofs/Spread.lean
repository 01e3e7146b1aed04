import PerpetualCurve.Proofs.Decimal
import PerpetualCurve.Proofs.Outcome
import PerpetualCurve.Quote.Spread

/-!
# What a half spread keeps

The half spread is widened step by step and never narrowed again. The factor of the inventory skew
is at least one however the leverage was rounded, also where it is pulled back toward the target
spread, and rounding the product down does not undo that. So what a quote retreats by for the oracle
is still there at the end.
-/

namespace PerpetualCurve

theorem Unsigned.toDecimal_eq_ok {a : Amount} {d : Decimal} (h : a.toDecimal = .ok d) :
    d.significand = a.toNat ∧ d.scale = 0 := by
  rw [Unsigned.toDecimal, Outcome.getDM_eq_ok_iff] at h
  exact Decimal.ofInt?_eq_some h

theorem scaleSpread_eq_ok {half spread : Amount} {scale : Decimal}
    (h : scaleSpread half scale = .ok spread) :
    ∃ whole product, half.toDecimal = .ok whole ∧ whole.mul? scale = some product ∧
      (spread.toNat : Int) = product.floor := by
  simp only [scaleSpread, Outcome.bind_eq_ok_iff, Outcome.getDM_eq_ok_iff,
    Outcome.guarded_eq_ok_iff, Unsigned.checked_eq_ok_iff] at h
  obtain ⟨whole, hwhole, product, hproduct, nonneg, hspread⟩ := h
  exact ⟨whole, product, hwhole, hproduct, by omega⟩

/-- Scaling by at least one does not narrow a spread. -/
theorem le_scaleSpread {half spread : Amount} {scale : Decimal} (one_le : 1 ≤ scale)
    (h : scaleSpread half scale = .ok spread) : half.toNat ≤ spread.toNat := by
  obtain ⟨whole, product, hwhole, hproduct, hspread⟩ := scaleSpread_eq_ok h
  have reaches := Decimal.le_floor_mul? hproduct (Unsigned.toDecimal_eq_ok hwhole)
    (Int.natCast_nonneg _) one_le
  omega

/-- What the quote on `side` gives way to the oracle for a mark that lies `gap` above it: the
distance between the two, under `markToTerminal` with the confidence interval on top. Where it does
not retreat it is nothing. -/
def Side.retreat (side : Side) (oracle : OracleReading) (policy : SpreadPolicy)
    (gap : SignedAmount) : Nat :=
  if side.retreats gap then
    match policy with
    | .costBasis => gap.toInt.natAbs
    | .markToTerminal => gap.toInt.natAbs + oracle.confidenceShare.toNat
  else 0

namespace Curve

variable {curve : Curve} {side : Side} {oracle : OracleReading} {policy : SpreadPolicy}
  {mark half spread : Amount} {gap : SignedAmount} {leverage scale : Decimal}

theorem effectiveLeverage_nonneg (h : curve.effectiveLeverage mark policy = .ok leverage) :
    0 ≤ leverage := by
  -- whatever the policy adds, the last step is the cut at zero
  cases policy <;>
    simp only [effectiveLeverage, Outcome.bind_eq_ok_iff, Outcome.pure_eq_ok_iff] at h <;>
    obtain ⟨_, -, _, -, _, -, _, -, _, -, raw, -, rfl⟩ := h <;>
    exact Decimal.le_max_right raw 0

/-- The factor of the skew is one plus the leverage, at most five; where that takes the half spread
`half` past the target, the one that meets the target, at least 1.05. -/
theorem inventoryScale_eq_ok_iff :
    curve.inventoryScale mark half policy = .ok scale ↔
      ∃ leverage factor whole skewed : Decimal,
        (if curve.feePool.toInt ≤ 0 then .maxSkew = leverage
          else curve.effectiveLeverage mark policy = .ok leverage) ∧
        Decimal.add? 1 leverage = some factor ∧ half.toDecimal = .ok whole ∧
        (min .maxSkew factor).mul? whole = some skewed ∧
        if 0 < whole ∧ .maxTarget < skewed then
          ∃ meeting, Decimal.maxTarget.div? whole = some meeting ∧
            max .leastScale meeting = scale
        else min .maxSkew factor = scale := by
  by_cases empty : curve.feePool.toInt ≤ 0
  · simp only [inventoryScale, empty, if_true, Outcome.bind_eq_ok_iff, Outcome.getDM_eq_ok_iff,
      Outcome.pure_eq_ok_iff, apply_ite (· = Except.ok scale), exists_eq_left', exists_and_left]
  · simp only [inventoryScale, empty, if_false, Outcome.bind_eq_ok_iff, Outcome.getDM_eq_ok_iff,
      Outcome.pure_eq_ok_iff, apply_ite (· = Except.ok scale), exists_and_left]

/-- No leverage and no target takes the factor below one. -/
theorem one_le_inventoryScale (h : curve.inventoryScale mark half policy = .ok scale) :
    1 ≤ scale := by
  obtain ⟨leverage, factor, _, _, hleverage, hfactor, -, -, h⟩ := inventoryScale_eq_ok_iff.1 h
  have leverage_nonneg : 0 ≤ leverage := by
    split at hleverage
    · rw [← hleverage]
      decide
    · exact effectiveLeverage_nonneg hleverage
  split at h
  · obtain ⟨meeting, -, rfl⟩ := h
    exact Decimal.le_trans (by decide) (Decimal.le_max_left _ meeting)
  · rw [← h]
    exact Decimal.le_min (by decide) (Decimal.one_le_add? hfactor leverage_nonneg)

/-- The skew never narrows a spread. -/
theorem le_skewedSpread (h : curve.skewedSpread side policy mark half = .ok spread) :
    half.toNat ≤ spread.toNat := by
  unfold skewedSpread at h
  split at h
  case isTrue skewed =>
    rw [Outcome.bind_eq_ok_iff] at h
    obtain ⟨scale, hscale, h⟩ := h
    exact le_scaleSpread (one_le_inventoryScale hscale) h
  case isFalse unskewed =>
    split at h
    case isTrue deficit =>
      rw [Unsigned.checked_eq_ok_iff] at h
      rw [h]
      exact Nat.le_mul_of_pos_right _ (by decide)
    case isFalse funded =>
      rw [Outcome.pure_eq_ok_iff] at h
      exact Nat.le_of_eq (congrArg _ h)

/-- The half spread `half` is widened to the retreat where it is less. -/
theorem retreatedSpread_toNat (h : retreatedSpread side oracle policy gap half = .ok spread) :
    spread.toNat = max half.toNat (side.retreat oracle policy gap) := by
  have wider : ∀ retreat : Amount,
      (if half.toNat < retreat.toNat then retreat else half) = spread →
      spread.toNat = max half.toNat retreat.toNat := by
    rintro retreat rfl
    split <;> omega
  unfold retreatedSpread at h
  unfold Side.retreat
  split at h
  case isTrue retreats =>
    rw [if_pos retreats]
    cases policy with
    | costBasis =>
      simp only [Outcome.bind_eq_ok_iff, Outcome.pure_eq_ok_iff] at h
      obtain ⟨_, rfl, hspread⟩ := h
      exact wider _ hspread
    | markToTerminal =>
      simp only [Outcome.bind_eq_ok_iff, Outcome.pure_eq_ok_iff, Unsigned.checked_eq_ok_iff,
        Signed.toNat_magnitude] at h
      obtain ⟨retreat, hretreat, hspread⟩ := h
      rw [wider retreat hspread, hretreat]
  case isFalse stays =>
    rw [if_neg stays, ← Outcome.pure_eq_ok_iff.1 h, Nat.max_zero]

/-- A side that retreats does so by the whole distance between mark and oracle. -/
theorem natAbs_le_retreatedSpread (retreats : side.retreats gap = true)
    (h : retreatedSpread side oracle policy gap half = .ok spread) :
    gap.toInt.natAbs ≤ spread.toNat := by
  have reached : gap.toInt.natAbs ≤ side.retreat oracle policy gap := by
    unfold Side.retreat
    rw [if_pos retreats]
    cases policy with
    | costBasis => exact Nat.le_refl _
    | markToTerminal => exact Nat.le_add_right _ _
  rw [retreatedSpread_toNat h]
  exact Nat.le_trans reached (Nat.le_max_right _ _)

/-- Where spreads are turned on, the half spread is half the base spread after retreat and skew. -/
theorem halfSpread_of_on (spreads : curve.baseSpread.toNat ≠ 0) (on : curve.intensity.toNat ≠ 0)
    (h : curve.halfSpread side oracle policy = .ok spread) :
    ∃ mark gap least retreated, curve.markPrice = .ok mark ∧
      oracleMarkSpread mark oracle.price = .ok gap ∧
      least.toNat = curve.baseSpread.toNat / 2 ∧
      retreatedSpread side oracle policy gap least = .ok retreated ∧
      curve.skewedSpread side policy mark retreated = .ok spread := by
  have turnedOn : ¬ (curve.baseSpread.toNat = 0 ∨ curve.intensity.toNat = 0) := by omega
  unfold halfSpread at h
  rw [if_neg turnedOn] at h
  simp only [Outcome.bind_eq_ok_iff] at h
  obtain ⟨mark, hmark, gap, hgap, retreated, hretreated, hskewed⟩ := h
  exact ⟨mark, gap, _, retreated, hmark, hgap, rfl, hretreated, hskewed⟩

theorem halfSpread_of_off (h : curve.halfSpread side oracle policy = .ok spread)
    (off : curve.baseSpread.toNat = 0 ∨ curve.intensity.toNat = 0) :
    spread.toNat = curve.baseSpread.toNat / 2 := by
  unfold halfSpread at h
  rw [if_pos off, Outcome.pure_eq_ok_iff] at h
  rw [← h]

/-- The half spread on the side that retreats is at least the distance between mark and oracle. -/
theorem natAbs_le_halfSpread (spreads : curve.baseSpread.toNat ≠ 0)
    (on : curve.intensity.toNat ≠ 0) (hmark : curve.markPrice = .ok mark)
    (hgap : oracleMarkSpread mark oracle.price = .ok gap) (retreats : side.retreats gap = true)
    (h : curve.halfSpread side oracle policy = .ok spread) : gap.toInt.natAbs ≤ spread.toNat := by
  obtain ⟨mark', gap', _, _, hmark', hgap', -, hretreated, hskewed⟩ :=
    halfSpread_of_on spreads on h
  cases hmark.symm.trans hmark'
  cases hgap.symm.trans hgap'
  exact Nat.le_trans (natAbs_le_retreatedSpread retreats hretreated) (le_skewedSpread hskewed)

end Curve

end PerpetualCurve
