import Mathlib.Algebra.Order.Floor.Div
import Mathlib.GroupTheory.GroupAction.Ring
import PerpetualCurve.Proofs.Spread

/-!
# How far a half spread widens

The skew multiplies a half spread by at most five, and where the fee pool is not in deficit it stops
at the target spread or, beyond that, at a factor of 1.05. The factor is a decimal and was rounded
several times on the way. The one that meets the target is off by half a unit in the last of 28
places; as it is only taken for half spreads below 20000, the product is off by far less than the
half unit that would carry its floor past the target.
-/

namespace PerpetualCurve

namespace Decimal

variable {factor meeting product whole : Decimal} {n : Nat}

theorem significand_mul?_le (h : factor.mul? whole = some product)
    (hw : whole.significand = n ∧ whole.scale = 0) (capped : factor ≤ maxSkew) :
    product.significand ≤ (maxInventorySkew * n : Nat) * 10 ^ product.scale := by
  refine significand_le_of_ofFraction? h (Nat.pow_pos (by decide)) ?_
  rw [maxSkew, le_ofNat_iff] at capped
  rw [hw.1, hw.2, Nat.add_zero, Int.natCast_pow, Int.natCast_mul, Int.mul_right_comm]
  exact Int.mul_le_mul_of_nonneg_right capped (Int.natCast_nonneg n)

/-- Only what exceeds the target when it is taken five times is pulled back. -/
theorem maxTargetSpread_lt_of_mul? (h : factor.mul? whole = some product)
    (hw : whole.significand = n ∧ whole.scale = 0) (capped : factor ≤ maxSkew)
    (past : maxTarget < product) : maxTargetSpread < maxInventorySkew * n := by
  have most := significand_mul?_le h hw capped
  rw [maxTarget, ofNat_lt_iff] at past
  have scaled : (maxTargetSpread : Int) * 10 ^ product.scale <
      (maxInventorySkew * n : Nat) * 10 ^ product.scale := Int.lt_of_lt_of_le past most
  exact_mod_cast lt_of_mul_lt_mul_right scaled (Int.le_of_lt product.pow_scale_pos)

section Meeting

variable (h : maxTarget.div? whole = some meeting)
  (hw : whole.significand = n ∧ whole.scale = 0) (past : maxTargetSpread < maxInventorySkew * n)

include h hw past

theorem meeting_eq : 0 < n ∧ ofFraction? maxTargetSpread n = some meeting := by
  have pos : 0 < n := by
    apply Nat.pos_of_ne_zero
    rintro rfl
    exact Nat.not_lt_zero _ past
  refine ⟨pos, ?_⟩
  rw [← h]
  exact (div?_of_whole (a := maxTarget) ⟨rfl, rfl⟩ hw pos).symm

theorem meeting_le_maxSkew : meeting ≤ maxSkew := by
  obtain ⟨pos, hmeeting⟩ := meeting_eq h hw past
  rw [maxSkew, le_ofNat_iff]
  refine significand_le_of_ofFraction? hmeeting pos ?_
  exact_mod_cast Nat.le_of_lt past

theorem meeting_scale : meeting.scale = 28 := by
  obtain ⟨pos, hmeeting⟩ := meeting_eq h hw past
  refine ofFraction?_scale hmeeting ?_
  have nonneg : 0 ≤ roundHalfEven ((maxTargetSpread : Int) * 10 ^ 28) n :=
    Int.le_trans (Int.ediv_nonneg (by decide) (Int.natCast_nonneg n)) (ediv_le_roundHalfEven _ _)
  have below : roundHalfEven ((maxTargetSpread : Int) * 10 ^ 28) n ≤
      maxInventorySkew * 10 ^ 28 := by
    apply roundHalfEven_le pos
    have past : (20000 : Int) < 5 * n := by exact_mod_cast past
    show 2 * (20000 * 10 ^ 28) < (2 * (5 * 10 ^ 28) + 1) * (n : Int)
    omega
  have fits : ((maxInventorySkew : Int) * 10 ^ 28).natAbs < 2 ^ 96 := by decide
  omega

/-- Where the factor that meets the target is at least 1.05, the product stays within half a unit
of the target. -/
theorem mul_meeting_lt (least : leastScale ≤ meeting) :
    2 * (n * meeting.significand) < (2 * maxTargetSpread + 1) * 10 ^ meeting.scale := by
  obtain ⟨pos, hmeeting⟩ := meeting_eq h hw past
  have close := two_mul_roundHalfEven_mul_le ((maxTargetSpread : Int) * 10 ^ meeting.scale) pos
  rw [← nearest?_significand hmeeting, meeting_scale h hw past] at close
  rw [le_iff, meeting_scale h hw past] at least
  rw [meeting_scale h hw past]
  change 105 * 10 ^ 28 ≤ meeting.significand * 10 ^ 2 at least
  change 2 * (meeting.significand * n) ≤ 2 * (20000 * 10 ^ 28) + n at close
  show 2 * (n * meeting.significand) < (2 * 20000 + 1) * 10 ^ 28
  -- half spreads of 20000 and more would take the product past 20000
  have small : (n : Int) < 20000 := by
    by_contra large
    nlinarith
  linarith

end Meeting

end Decimal

section Scaled

variable {half spread : Amount} {scale : Decimal} {n : Nat}

theorem scaleSpread_le (h : scaleSpread half scale = .ok spread)
    (below : 2 * (half.toNat * scale.significand) < (2 * n + 1) * 10 ^ scale.scale) :
    spread.toNat ≤ n := by
  obtain ⟨whole, product, hwhole, hproduct, hspread⟩ := scaleSpread_eq_ok h
  obtain ⟨significand_eq, scale_eq⟩ := Unsigned.toDecimal_eq_ok hwhole
  have floor_le : product.floor ≤ n := by
    refine Decimal.floor_le_of_ofFraction? hproduct (Nat.pow_pos (by decide)) ?_
    rw [significand_eq, scale_eq, Nat.zero_add, Int.natCast_pow]
    exact below
  omega

theorem scaleSpread_le_maxSkew (h : scaleSpread half scale = .ok spread)
    (capped : scale ≤ .maxSkew) : spread.toNat ≤ maxInventorySkew * half.toNat := by
  apply scaleSpread_le h
  rw [Decimal.maxSkew, Decimal.le_ofNat_iff] at capped
  have scaled := Int.mul_le_mul_of_nonneg_left capped (Int.natCast_nonneg half.toNat)
  have unit := scale.pow_scale_pos
  push_cast
  linarith

theorem scaleSpread_leastScale_le (h : scaleSpread half .leastScale = .ok spread) :
    spread.toNat ≤ (105 * half.toNat) ⌈/⌉ 100 := by
  apply scaleSpread_le h
  have covered : 105 * half.toNat ≤ 100 * ((105 * half.toNat) ⌈/⌉ 100) :=
    le_smul_ceilDiv (Nat.succ_pos 99)
  show 2 * ((half.toNat : Int) * 105) < (2 * ((105 * half.toNat) ⌈/⌉ 100 : Nat) + 1) * 10 ^ 2
  omega

end Scaled

namespace Curve

variable {curve : Curve} {side : Side} {oracle : OracleReading} {policy : SpreadPolicy}
  {mark half spread : Amount} {scale : Decimal}

/-- The factor of the skew is at most five. It takes the half spread no further than the target,
or it is 1.05, or it is the one that meets the target. -/
theorem inventoryScale_cases (h : curve.inventoryScale mark half policy = .ok scale) :
    scale ≤ .maxSkew ∧ ∃ whole, half.toDecimal = .ok whole ∧
      ((∃ skewed, whole.mul? scale = some skewed ∧ (0 < whole → skewed ≤ .maxTarget)) ∨
        scale = .leastScale ∨
        2 * (half.toNat * scale.significand) < (2 * maxTargetSpread + 1) * 10 ^ scale.scale) := by
  obtain ⟨_, factor, whole, skewed, -, -, hwhole, hskewed, h⟩ := inventoryScale_eq_ok_iff.1 h
  have capped : min .maxSkew factor ≤ .maxSkew := Decimal.min_le_left _ _
  by_cases pulled : 0 < whole ∧ .maxTarget < skewed
  · rw [if_pos pulled] at h
    obtain ⟨meeting, hmeeting, rfl⟩ := h
    have hw := Unsigned.toDecimal_eq_ok hwhole
    have past := Decimal.maxTargetSpread_lt_of_mul? hskewed hw capped pulled.2
    rw [Decimal.max_eq]
    split
    case isTrue least =>
      exact ⟨Decimal.meeting_le_maxSkew hmeeting hw past, whole, hwhole,
        .inr (.inr (Decimal.mul_meeting_lt hmeeting hw past least))⟩
    case isFalse => exact ⟨by decide, whole, hwhole, .inr (.inl rfl)⟩
  · rw [if_neg pulled] at h
    rw [← h]
    refine ⟨capped, whole, hwhole, .inl ⟨skewed, ?_, ?_⟩⟩
    · rw [Decimal.mul?_comm]
      exact hskewed
    · intro positive
      exact Decimal.le_of_not_lt fun past => pulled ⟨positive, past⟩

/-- What the factor of the skew makes of a half spread. -/
theorem scaleSpread_inventoryScale_le (hscale : curve.inventoryScale mark half policy = .ok scale)
    (h : scaleSpread half scale = .ok spread) :
    spread.toNat ≤ maxInventorySkew * half.toNat ∧
      spread.toNat ≤ max maxTargetSpread ((105 * half.toNat) ⌈/⌉ 100) := by
  obtain ⟨capped, whole, hwhole, hcases⟩ := inventoryScale_cases hscale
  have within := scaleSpread_le_maxSkew h capped
  refine ⟨within, ?_⟩
  rcases hcases with ⟨skewed, hskewed, target⟩ | rfl | meets
  · obtain ⟨whole', product, hwhole', hproduct, hspread⟩ := scaleSpread_eq_ok h
    cases hwhole.symm.trans hwhole'
    cases hskewed.symm.trans hproduct
    obtain ⟨significand_eq, scale_eq⟩ := Unsigned.toDecimal_eq_ok hwhole
    by_cases empty : half.toNat = 0
    · rw [empty] at within
      omega
    · have positive : 0 < whole := by
        rw [Decimal.zero_lt_iff, significand_eq]
        omega
      have floor_le := Decimal.floor_le_of_le_ofNat (target positive)
      omega
  · exact Nat.le_trans (scaleSpread_leastScale_le h) (Nat.le_max_right _ _)
  · exact Nat.le_trans (scaleSpread_le h meets) (Nat.le_max_left _ _)

/-- The skew multiplies by at most five. It passes the target by at most a twentieth, unless the fee
pool is in deficit and the side does not grow the exposure. -/
theorem skewedSpread_le (h : curve.skewedSpread side policy mark half = .ok spread) :
    spread.toNat ≤ maxInventorySkew * half.toNat ∧
      (0 ≤ curve.feePool.toInt ∨ curve.growsExposure side = true →
        spread.toNat ≤ max maxTargetSpread ((105 * half.toNat) ⌈/⌉ 100)) := by
  unfold skewedSpread at h
  split at h
  case isTrue skewed =>
    rw [Outcome.bind_eq_ok_iff] at h
    obtain ⟨scale, hscale, h⟩ := h
    obtain ⟨within, target⟩ := scaleSpread_inventoryScale_le hscale h
    exact ⟨within, fun _ => target⟩
  case isFalse unskewed =>
    split at h
    case isTrue deficit =>
      rw [Unsigned.checked_eq_ok_iff, Nat.mul_comm] at h
      refine ⟨Nat.le_of_eq h, ?_⟩
      rintro (funded | grows)
      · omega
      · exact absurd (.inl grows) unskewed
    case isFalse funded =>
      rw [Outcome.pure_eq_ok_iff] at h
      rw [← h]
      have covered : 105 * half.toNat ≤ 100 * ((105 * half.toNat) ⌈/⌉ 100) :=
        le_smul_ceilDiv (Nat.succ_pos 99)
      exact ⟨Nat.le_mul_of_pos_left _ (by decide), fun _ => by omega⟩

/-- The half spread before the skew: half the base spread or the retreat, whichever is more. -/
def unskewedSpread (curve : Curve) (side : Side) (oracle : OracleReading) (policy : SpreadPolicy)
    (gap : SignedAmount) : Nat :=
  max (curve.baseSpread.toNat / 2) (side.retreat oracle policy gap)

/-- Between what it is before the skew and five times that lies every half spread, however the
factor was rounded. Where the fee pool is not in deficit or the side grows the exposure it does not
go past the target spread, or past 1.05 times what it was. -/
theorem halfSpread_envelope (spreads : curve.baseSpread.toNat ≠ 0) (on : curve.intensity.toNat ≠ 0)
    (h : curve.halfSpread side oracle policy = .ok spread) :
    ∃ mark gap, curve.markPrice = .ok mark ∧ oracleMarkSpread mark oracle.price = .ok gap ∧
      curve.unskewedSpread side oracle policy gap ≤ spread.toNat ∧
      spread.toNat ≤ maxInventorySkew * curve.unskewedSpread side oracle policy gap ∧
      (0 ≤ curve.feePool.toInt ∨ curve.growsExposure side = true →
        spread.toNat ≤
          max maxTargetSpread ((105 * curve.unskewedSpread side oracle policy gap) ⌈/⌉ 100)) := by
  obtain ⟨mark, gap, least, retreated, hmark, hgap, hleast, hretreated, hskewed⟩ :=
    halfSpread_of_on spreads on h
  have unskewed : curve.unskewedSpread side oracle policy gap = retreated.toNat := by
    rw [unskewedSpread, ← hleast, retreatedSpread_toNat hretreated]
  refine ⟨mark, gap, hmark, hgap, ?_⟩
  rw [unskewed]
  exact ⟨le_skewedSpread hskewed, skewedSpread_le hskewed⟩

/-- A curve whose leverage is almost five: traders are long 10 units of base, and a dollar is left
of the fees. -/
def leveraged : Curve where
  base := .ofNat 10000000000000000
  quote := .ofNat 10000000000000000
  sqrtK := .ofNat 10000000000000000
  peg := .ofNat 50000
  netBase := .ofInt 100000000000000
  terminalQuote := .ofNat 9900990099009900
  feePool := .ofInt 1000000
  baseSpread := .ofNat 1000
  intensity := .ofNat 100

/-- The ask retreats by 14000, and the factor that takes it to the target is `10 / 7`, rounded
up. -/
theorem leveraged_envelope :
    leveraged.baseSpread.toNat ≠ 0 ∧ leveraged.intensity.toNat ≠ 0 ∧
    ∃ spread gap,
      leveraged.halfSpread .long
        { price := .ofInt 505000000000, confidence := .ofNat 2020000000 } .markToTerminal =
          .ok spread ∧
      oracleMarkSpread (.ofNat 500000000000) (.ofInt 505000000000) = .ok gap ∧
      leveraged.growsExposure .long = true ∧
      leveraged.unskewedSpread .long
        { price := .ofInt 505000000000, confidence := .ofNat 2020000000 } .markToTerminal gap =
          14000 ∧
      14000 ≤ spread.toNat ∧ spread.toNat ≤ maxInventorySkew * 14000 ∧
      spread.toNat ≤ max maxTargetSpread ((105 * 14000) ⌈/⌉ 100) := by
  have marked : leveraged.markPrice = .ok (.ofNat 500000000000) := by decide +kernel
  have apart : oracleMarkSpread (.ofNat 500000000000) (.ofInt 505000000000) =
      .ok (.ofInt (-10000)) := by
    decide +kernel
  have widened : leveraged.halfSpread .long
      { price := .ofInt 505000000000, confidence := .ofNat 2020000000 } .markToTerminal =
        .ok (.ofNat 20000) := by
    decide +kernel
  have unskewed : leveraged.unskewedSpread .long
      { price := .ofInt 505000000000, confidence := .ofNat 2020000000 } .markToTerminal
      (.ofInt (-10000)) = 14000 := by
    decide +kernel
  have on : leveraged.baseSpread.toNat ≠ 0 ∧ leveraged.intensity.toNat ≠ 0 := by decide
  have grows : leveraged.growsExposure .long = true := by decide
  obtain ⟨mark, gap, hmark, hgap, low, high, target⟩ := halfSpread_envelope on.1 on.2 widened
  cases marked.symm.trans hmark
  cases apart.symm.trans hgap
  rw [unskewed] at low high target
  exact ⟨on.1, on.2, _, _, widened, apart, grows, unskewed, low, high, target (.inr grows)⟩

end Curve

end PerpetualCurve
