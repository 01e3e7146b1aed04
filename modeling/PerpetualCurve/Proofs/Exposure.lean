import PerpetualCurve.Proofs.Widening

/-!
# The side that grows the exposure

Where mark and oracle agree neither side retreats, and both quotes start at half the base spread. An
empty fee pool skews both sides alike, and a funded one only the side that would grow the position
traders hold against the curve, so this side is never the tighter one. A pool in deficit skews both
by five. On the side that grows the position this skew is pulled back to the target spread, on the
other one it is not, so there the order of the sides turns around as soon as five times half the
base spread is past the target.
-/

namespace PerpetualCurve

/-- Where mark and oracle agree there is nothing to retreat by. -/
theorem Side.retreat_zero (side : Side) (oracle : OracleReading) (policy : SpreadPolicy) :
    side.retreat oracle policy 0 = 0 := by
  cases side <;> rfl

/-- A product that stays within the target is not pulled back, and five times a whole number is not
rounded. -/
theorem Skewed.maxSkew_le {half spread : Amount} (skewed : Skewed half .maxSkew spread)
    (within : maxInventorySkew * half.toNat ≤ maxTargetSpread) :
    maxInventorySkew * half.toNat ≤ spread.toNat := by
  cases skewed with
  | @within whole product whole_eq product_eq le_target spread_eq =>
    obtain ⟨significand_eq, scale_eq⟩ := Unsigned.toDecimal_eq_ok whole_eq
    have reached : (maxInventorySkew * half.toNat : Nat) ≤ product.floor := by
      refine Decimal.le_floor_of_ofFraction? product_eq (Nat.pow_pos (by decide)) ?_
      rw [significand_eq, scale_eq]
      show (5 * half.toNat : Nat) * (1 : Int) ≤ 5 * half.toNat
      omega
    omega
  | pulled whole_eq product_eq past =>
    have beyond := Decimal.maxTargetSpread_lt_of_mul? product_eq (Unsigned.toDecimal_eq_ok whole_eq)
      (Decimal.le_refl _) past
    omega

namespace Curve

variable {curve : Curve} {side : Side} {oracle : OracleReading} {policy : SpreadPolicy}
  {mark half exposed unexposed long short : Amount} {factor : Decimal}

/-- A position grows on one side only. -/
theorem not_growsExposure_opposite (grows : curve.growsExposure side = true) :
    ¬ curve.growsExposure side.opposite = true := by
  cases side <;> simp only [growsExposure, Side.opposite, decide_eq_true_eq] at grows ⊢ <;> omega

theorem Factor.eq_maxSkew (exhausted : curve.feePool.toInt ≤ 0)
    (h : curve.Factor mark policy factor) : factor = .maxSkew := by
  cases h with
  | exhausted => rfl
  | leveraged funded => omega

/-- On the side that grows the exposure a skew by five that is past the target is pulled back. -/
theorem skewedSpread_lt_of_past (grows : curve.growsExposure side = true)
    (h : curve.skewedSpread side policy mark half = .ok exposed)
    (past : maxTargetSpread < maxInventorySkew * half.toNat) :
    exposed.toNat < maxInventorySkew * half.toNat := by
  have capped := (skewedSpread_le h).2 (.inr grows)
  have least_lt : (105 * half.toNat) ⌈/⌉ 100 < maxInventorySkew * half.toNat := by
    rw [Nat.ceilDiv_eq_add_pred_div]
    show (105 * half.toNat + 100 - 1) / 100 < 5 * half.toNat
    have past : 20000 < 5 * half.toNat := past
    omega
  omega

/-- From one half spread, the skew takes the side that grows the exposure at least as far as the
other one unless the fee pool is in deficit and five times the half spread is past the target. -/
theorem skewedSpread_opposite_le_iff (grows : curve.growsExposure side = true)
    (h : curve.skewedSpread side policy mark half = .ok exposed)
    (h' : curve.skewedSpread side.opposite policy mark half = .ok unexposed) :
    unexposed.toNat ≤ exposed.toNat ↔
      0 ≤ curve.feePool.toInt ∨ maxInventorySkew * half.toNat ≤ maxTargetSpread := by
  have not_grows := not_growsExposure_opposite grows
  cases skews_of_skewedSpread h with
  | deficit unexposed => exact absurd (.inl grows) unexposed
  | stays unexposed => exact absurd (.inl grows) unexposed
  | scaled _ hfactor skewed =>
    cases skews_of_skewedSpread h' with
    | scaled empty hfactor' skewed' =>
      -- the other side is skewed only over an empty pool, and by the same factor
      have empty := empty.resolve_left not_grows
      cases hfactor.eq_maxSkew (Int.le_of_eq empty)
      cases hfactor'.eq_maxSkew (Int.le_of_eq empty)
      have le := skewed'.mono_factor skewed hfactor.nonneg (Decimal.le_refl _) hfactor.capped
      exact iff_of_true le (.inl (Int.le_of_eq empty.symm))
    | deficit _ deficit spread_eq =>
      cases hfactor.eq_maxSkew (Int.le_of_lt deficit)
      rw [spread_eq, Nat.mul_comm]
      constructor
      · intro le
        refine .inr (Nat.le_of_not_lt fun past => ?_)
        exact Nat.not_lt.2 le (skewedSpread_lt_of_past grows h past)
      · intro within
        exact skewed.maxSkew_le (within.resolve_left (Int.not_le.2 deficit))
    | stays _ funded spread_eq =>
      rw [spread_eq]
      exact iff_of_true (le_skewedSpread h) (.inl (Int.le_of_lt funded))

/-- Where mark and oracle agree, the skew starts from half the base spread. -/
theorem skewedSpread_of_level {spread : Amount}
    (on : ¬ (curve.baseSpread.toNat = 0 ∨ curve.intensity.toNat = 0))
    (hmark : curve.markPrice = .ok mark) (level : oracleMarkSpread mark oracle.price = .ok 0)
    (h : curve.halfSpread side oracle policy = .ok spread) :
    ∃ half, half.toNat = curve.baseSpread.toNat / 2 ∧
      curve.skewedSpread side policy mark half = .ok spread := by
  obtain ⟨mark', gap, half, hmark', hgap, hhalf, hskewed⟩ := halfSpread_widened h on
  cases hmark.symm.trans hmark'
  cases level.symm.trans hgap
  rw [unskewedSpread, Side.retreat_zero, Nat.max_zero] at hhalf
  exact ⟨half, hhalf, hskewed⟩

theorem halfSpread_opposite_le_iff (side : Side) (grows : curve.growsExposure side = true)
    (hmark : curve.markPrice = .ok mark) (level : oracleMarkSpread mark oracle.price = .ok 0)
    (h : curve.halfSpread side oracle policy = .ok exposed)
    (h' : curve.halfSpread side.opposite oracle policy = .ok unexposed) :
    unexposed.toNat ≤ exposed.toNat ↔
      0 ≤ curve.feePool.toInt ∨ curve.intensity.toNat = 0 ∨
        maxInventorySkew * (curve.baseSpread.toNat / 2) ≤ maxTargetSpread := by
  by_cases off : curve.baseSpread.toNat = 0 ∨ curve.intensity.toNat = 0
  · rw [halfSpread_of_off h off, halfSpread_of_off h' off]
    refine iff_of_true (Nat.le_refl _) (.inr ?_)
    rcases off with none | off
    · exact .inr (by rw [none]; decide)
    · exact .inl off
  · obtain ⟨half, hhalf, hskewed⟩ := skewedSpread_of_level off hmark level h
    obtain ⟨half', hhalf', hskewed'⟩ := skewedSpread_of_level off hmark level h'
    cases Unsigned.ext (hhalf.trans hhalf'.symm)
    have on : curve.intensity.toNat ≠ 0 := fun none => off (.inr none)
    rw [skewedSpread_opposite_le_iff grows hskewed hskewed', hhalf, or_iff_right on]

/-- Where mark and oracle agree, the quote on the side that grows the position is no closer to the
mark than the other one, unless the fee pool is in deficit and five times half the base spread is
past the target. Then it is closer: the other side takes the full skew, and this side's is pulled
back. -/
theorem unexposed_le_exposed_iff (hlong : curve.halfSpread .long oracle policy = .ok long)
    (hshort : curve.halfSpread .short oracle policy = .ok short)
    (hmark : curve.markPrice = .ok mark) (level : oracleMarkSpread mark oracle.price = .ok 0) :
    (0 < curve.netBase.toInt →
      (short.toNat ≤ long.toNat ↔
        0 ≤ curve.feePool.toInt ∨ curve.intensity.toNat = 0 ∨
          maxInventorySkew * (curve.baseSpread.toNat / 2) ≤ maxTargetSpread)) ∧
    (curve.netBase.toInt < 0 →
      (long.toNat ≤ short.toNat ↔
        0 ≤ curve.feePool.toInt ∨ curve.intensity.toNat = 0 ∨
          maxInventorySkew * (curve.baseSpread.toNat / 2) ≤ maxTargetSpread)) := by
  constructor
  · intro held_long
    exact halfSpread_opposite_le_iff .long (decide_eq_true held_long) hmark level hlong hshort
  · intro held_short
    exact halfSpread_opposite_le_iff .short (decide_eq_true held_short) hmark level hshort hlong

/-- A curve like `leveraged` with a fee pool in deficit, on which five times half the base spread is
just the target. -/
def indebted : Curve := { leveraged with feePool := .ofInt (-1), baseSpread := .ofNat 8000 }

theorem indebted_level : oracleMarkSpread (.ofNat 500000000000) (.ofInt 500000000000) = .ok 0 := by
  decide +kernel

/-- Both sides are skewed to the target. -/
theorem indebted_unexposed_le_exposed :
    indebted.markPrice = .ok (.ofNat 500000000000) ∧
    oracleMarkSpread (.ofNat 500000000000) (.ofInt 500000000000) = .ok 0 ∧
    0 < indebted.netBase.toInt ∧ indebted.feePool.toInt < 0 ∧
    ∃ long short,
      indebted.halfSpread .long { price := .ofInt 500000000000 } .markToTerminal = .ok long ∧
      indebted.halfSpread .short { price := .ofInt 500000000000 } .markToTerminal = .ok short ∧
      short.toNat ≤ long.toNat := by
  have marked : indebted.markPrice = .ok (.ofNat 500000000000) := by decide +kernel
  have asked : indebted.halfSpread .long { price := .ofInt 500000000000 } .markToTerminal =
      .ok (.ofNat 20000) := by
    decide +kernel
  have bid : indebted.halfSpread .short { price := .ofInt 500000000000 } .markToTerminal =
      .ok (.ofNat 20000) := by
    decide +kernel
  obtain ⟨held_long, -⟩ := unexposed_le_exposed_iff asked bid marked indebted_level
  exact ⟨marked, indebted_level, by decide, by decide, _, _, asked, bid,
    (held_long (by decide)).2 (.inr (.inr (by decide)))⟩

/-- One unit more of half the base spread takes the bid to 20005, and the ask stays at 20000. -/
theorem not_unexposed_le_exposed :
    ¬ ∀ (curve : Curve) (oracle : OracleReading) (policy : SpreadPolicy)
      (mark long short : Amount), curve.markPrice = .ok mark →
      oracleMarkSpread mark oracle.price = .ok 0 →
      curve.halfSpread .long oracle policy = .ok long →
      curve.halfSpread .short oracle policy = .ok short →
      (0 < curve.netBase.toInt → short.toNat ≤ long.toNat) ∧
        (curve.netBase.toInt < 0 → long.toNat ≤ short.toNat) := by
  intro never_tighter
  have asked : { indebted with baseSpread := .ofNat 8002 }.halfSpread .long
      { price := .ofInt 500000000000 } .costBasis = .ok (.ofNat 20000) := by
    decide +kernel
  have bid : { indebted with baseSpread := .ofNat 8002 }.halfSpread .short
      { price := .ofInt 500000000000 } .costBasis = .ok (.ofNat 20005) := by
    decide +kernel
  have marked : { indebted with baseSpread := .ofNat 8002 }.markPrice =
      .ok (.ofNat 500000000000) := by
    decide +kernel
  obtain ⟨held_long, -⟩ := never_tighter { indebted with baseSpread := .ofNat 8002 }
    { price := .ofInt 500000000000 } _ _ _ _ marked indebted_level asked bid
  exact absurd (held_long (by decide)) (by decide)

end Curve

end PerpetualCurve
