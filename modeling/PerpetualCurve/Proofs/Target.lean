import PerpetualCurve.Proofs.Envelope
import PerpetualCurve.Proofs.Monotone

/-!
# At the target spread

Where the skew would take a half spread past the target, it multiplies by the factor that meets the
target instead. That factor is a quotient rounded to 28 places, and the product is rounded to the 24
places a decimal near the target has. Where the quotient was rounded down by enough, the product
comes out below the target and its floor is one unit less. `FallsShort` says for which half spreads
this happens. No other factor does better there: of the factors with 28 places the next larger one
is already past the target.
-/

namespace PerpetualCurve

theorem natCast_maxTargetSpread : (maxTargetSpread : Int) = 20000 := rfl

/-- The half spreads that the rounded factor takes to more than half a unit in the 24th place below
the target. They lie between 10001 and 19047. -/
structure FallsShort (half : Nat) : Prop where
  pos : 0 < half
  meets : 105 * half ≤ 100 * maxTargetSpread
  short : half * roundHalfEven (maxTargetSpread * 10 ^ 28) half + 5 * 10 ^ 3 <
    maxTargetSpread * 10 ^ 28

instance : DecidablePred FallsShort := fun half =>
  decidable_of_iff
    (0 < half ∧ 105 * half ≤ 100 * maxTargetSpread ∧
      half * roundHalfEven (maxTargetSpread * 10 ^ 28) half + 5 * 10 ^ 3 <
        maxTargetSpread * 10 ^ 28)
    ⟨fun ⟨pos, meets, short⟩ => ⟨pos, meets, short⟩, fun h => ⟨h.pos, h.meets, h.short⟩⟩

theorem FallsShort.lt {half : Nat} (h : FallsShort half) : 10000 < half := by
  have close := two_mul_le_roundHalfEven_mul (maxTargetSpread * 10 ^ 28) h.pos
  rw [Int.mul_comm (roundHalfEven _ _)] at close
  have short := h.short
  omega

theorem FallsShort.lt_maxTargetSpread {half : Nat} (h : FallsShort half) :
    half < maxTargetSpread := by
  have meets := h.meets
  have target : maxTargetSpread = 20000 := rfl
  omega

/-- Where a half spread comes out that is pulled back to the target. -/
def targetReach (half : Nat) : Nat :=
  if FallsShort half then maxTargetSpread - 1 else maxTargetSpread

theorem targetReach_le (half : Nat) : targetReach half ≤ maxTargetSpread := by
  unfold targetReach
  split <;> omega

theorem le_targetReach_add_one (half : Nat) : maxTargetSpread ≤ targetReach half + 1 := by
  unfold targetReach
  split <;> omega

theorem targetReach_lt_iff {half : Nat} : targetReach half < maxTargetSpread ↔ FallsShort half := by
  have target_pos : 0 < maxTargetSpread := by decide
  unfold targetReach
  split
  case isTrue short => exact ⟨fun _ => short, fun _ => by omega⟩
  case isFalse reached =>
    exact ⟨fun less => absurd less (Nat.lt_irrefl _), fun short => absurd short reached⟩

theorem targetReach_of_least {half : Nat} (least : 100 * maxTargetSpread < 105 * half) :
    targetReach half = maxTargetSpread :=
  if_neg fun short => Nat.not_lt.2 short.meets least

namespace Decimal

section Near

variable {d : Decimal} {num : Int} {den : Nat} (h : ofFraction? num den = some d) (pos : 0 < den)
  (low : (maxTargetSpread - 1 : Int) * den ≤ num) (high : num ≤ (maxTargetSpread + 1 : Int) * den)

include h pos low high

/-- A decimal within one of the target has 24 places. -/
theorem scale_of_near_target : d.scale = 24 := by
  rw [natCast_maxTargetSpread] at low high
  rcases Nat.lt_trichotomy d.scale 24 with coarser | same | finer
  · have past := nearest?_maximal h coarser (by decide)
    have rounded_nonneg : 0 ≤ roundHalfEven (num * 10 ^ 24) den :=
      roundHalfEven_nonneg den (by omega)
    have fits : roundHalfEven (num * 10 ^ 24) den ≤ 20001 * 10 ^ 24 :=
      roundHalfEven_le pos (by omega)
    omega
  · exact same
  · have fits := d.natAbs_lt
    have ten_pow : (10 : Int) ^ 25 ≤ 10 ^ d.scale := pow_le_pow_right₀ (by decide) finer
    have reached : 19999 * 10 ^ d.scale ≤ d.significand := by
      rw [nearest?_significand h]
      refine Int.le_trans ?_ (ediv_le_roundHalfEven _ _)
      rw [Int.le_ediv_iff_mul_le (Int.natCast_pos.2 pos), Int.mul_right_comm]
      exact Int.mul_le_mul_of_nonneg_right low (Int.le_of_lt d.pow_scale_pos)
    omega

theorem target_le_floor_iff :
    maxTargetSpread ≤ d.floor ↔
      (2 * (maxTargetSpread * 10 ^ 24) - 1) * den ≤ 2 * (num * 10 ^ 24) := by
  rw [le_floor_iff, nearest?_significand h, scale_of_near_target h pos low high,
    le_roundHalfEven_iff pos, natCast_maxTargetSpread]
  omega

theorem le_maxTarget_iff :
    d ≤ maxTarget ↔ 2 * (num * 10 ^ 24) ≤ (2 * (maxTargetSpread * 10 ^ 24) + 1) * den := by
  have beyond : 20000 * 10 ^ 24 + 1 ≤ roundHalfEven (num * 10 ^ 24) den ↔ _ :=
    le_roundHalfEven_iff pos
  rw [maxTarget, le_ofNat_iff, nearest?_significand h, scale_of_near_target h pos low high,
    natCast_maxTargetSpread]
  omega

end Near

/-- What is rounded to the target, or above it by less than a unit, is within one of it. -/
theorem near_target_of_floor {d : Decimal} {num : Int} {den : Nat}
    (h : ofFraction? num den = some d) (pos : 0 < den) (same : d.floor = maxTargetSpread) :
    (maxTargetSpread - 1 : Int) * den ≤ num ∧ num ≤ (maxTargetSpread + 1 : Int) * den := by
  rw [natCast_maxTargetSpread] at same ⊢
  constructor
  · by_contra less
    have below := floor_le_of_ofFraction? (n := 19999) h pos (by omega)
    omega
  · by_contra more
    have above := le_floor_of_ofFraction? (n := 20001) h pos (by omega)
    omega

/-- A decimal is a whole number of units in the 28th place. -/
theorem exists_units (d : Decimal) :
    ∃ units : Int, d.significand * 10 ^ 28 = units * 10 ^ d.scale := by
  obtain ⟨places, hplaces⟩ := Nat.le.dest d.scale_le
  refine ⟨d.significand * 10 ^ places, ?_⟩
  rw [← hplaces, Int.pow_add, Int.mul_comm (10 ^ d.scale), Int.mul_assoc]

variable {factor whole meeting product : Decimal} {n : Nat}

section Meeting

variable (h : maxTarget.div? whole = some meeting)
  (hw : whole.significand = n ∧ whole.scale = 0) (past : maxTargetSpread < maxInventorySkew * n)

include h hw past

theorem meeting_significand :
    meeting.significand = roundHalfEven (maxTargetSpread * 10 ^ 28) n := by
  rw [nearest?_significand (meeting_eq h hw past).2, meeting_scale h hw past]

/-- The factor that meets the target is taken unless it is below 1.05. -/
theorem leastScale_le_meeting_iff : leastScale ≤ meeting ↔ 105 * n ≤ 100 * maxTargetSpread := by
  obtain ⟨pos, hmeeting⟩ := meeting_eq h hw past
  constructor
  · intro least
    have close := two_mul_roundHalfEven_mul_le (maxTargetSpread * 10 ^ 28) pos
    rw [← meeting_significand h hw past] at close
    rw [le_iff, meeting_scale h hw past] at least
    have scaled := Int.mul_le_mul_of_nonneg_right least (Int.natCast_nonneg n)
    change 105 * 10 ^ 28 * (n : Int) ≤ meeting.significand * 10 ^ 2 * n at scaled
    rw [Int.mul_right_comm meeting.significand] at scaled
    have target : maxTargetSpread = 20000 := rfl
    omega
  · intro meets
    refine le_of_ofFraction? hmeeting pos (by decide) ?_
    show (105 : Int) * n ≤ maxTargetSpread * 10 ^ 2
    omega

/-- The factor that meets the target takes a half spread to it, or to one unit less. -/
theorem floor_mul_meeting (hproduct : whole.mul? meeting = some product)
    (meets : 105 * n ≤ 100 * maxTargetSpread) :
    product.floor = targetReach n := by
  obtain ⟨pos, -⟩ := meeting_eq h hw past
  have target : maxTargetSpread = 20000 := rfl
  have above := two_mul_roundHalfEven_mul_le (maxTargetSpread * 10 ^ 28) pos
  have below := two_mul_le_roundHalfEven_mul (maxTargetSpread * 10 ^ 28) pos
  have short_iff : FallsShort n ↔
      n * roundHalfEven (maxTargetSpread * 10 ^ 28) n + 5 * 10 ^ 3 < maxTargetSpread * 10 ^ 28 :=
    ⟨FallsShort.short, fun short => ⟨pos, meets, short⟩⟩
  rw [mul?, hw.1, hw.2, meeting_scale h hw past, meeting_significand h hw past] at hproduct
  rw [Int.mul_comm (roundHalfEven _ _)] at above below
  generalize (n : Int) * roundHalfEven (maxTargetSpread * 10 ^ 28) n = exact at *
  have least : maxTargetSpread - 1 ≤ product.floor :=
    le_floor_of_ofFraction? hproduct (by decide) (by omega)
  have most : product.floor ≤ maxTargetSpread :=
    floor_le_of_ofFraction? hproduct (by decide) (by omega)
  have reaches := target_le_floor_iff hproduct (by decide) (by omega) (by omega)
  unfold targetReach
  split
  case isTrue short =>
    rw [short_iff] at short
    omega
  case isFalse reached =>
    rw [short_iff] at reached
    omega

end Meeting

/-- Where the factor that meets the target falls short, no factor keeps the product within the
target and reaches it: the next larger one is past it. -/
theorem floor_lt_of_fallsShort (h : factor.mul? whole = some product)
    (hw : whole.significand = n ∧ whole.scale = 0) (short : FallsShort n)
    (within : product ≤ maxTarget) : product.floor < maxTargetSpread := by
  have den_pos : 0 < 10 ^ factor.scale := Nat.pow_pos (by decide)
  have most : product.floor ≤ maxTargetSpread := floor_le_of_le_ofNat within
  rw [mul?, hw.1, hw.2, Nat.add_zero] at h
  by_contra reached
  obtain ⟨low, high⟩ := near_target_of_floor h den_pos (by omega)
  have reaches := (target_le_floor_iff h den_pos low high).1 (by omega)
  have stays := (le_maxTarget_iff h den_pos low high).1 within
  -- in units of the 28th place both factors are whole numbers
  obtain ⟨units, hunits⟩ := factor.exists_units
  rw [natCast_maxTargetSpread] at reaches stays
  have written : factor.significand * n * 10 ^ 28 = n * units * (10 ^ factor.scale : Nat) := by
    rw [Int.mul_right_comm, hunits, Int.natCast_pow, Nat.cast_ofNat]
    ac_rfl
  have scale_pos : (0 : Int) < (10 ^ factor.scale : Nat) := Int.natCast_pos.2 den_pos
  have reaches : 2 * (20000 * 10 ^ 28) - 10 ^ 4 ≤ 2 * (n * units) := by
    apply Int.le_of_mul_le_mul_right _ scale_pos
    rw [Int.mul_assoc 2, ← written]
    omega
  have stays : 2 * (n * units) ≤ 2 * (20000 * 10 ^ 28) + 10 ^ 4 := by
    apply Int.le_of_mul_le_mul_right _ scale_pos
    rw [Int.mul_assoc 2, ← written]
    omega
  have close := two_mul_le_roundHalfEven_mul (maxTargetSpread * 10 ^ 28) short.pos
  have missed := short.short
  have wide := short.lt
  rw [Int.mul_comm (roundHalfEven _ _)] at close
  generalize roundHalfEven (maxTargetSpread * 10 ^ 28) n = meeting at *
  rw [natCast_maxTargetSpread] at close missed
  have larger : meeting < units := by
    apply Int.lt_of_mul_lt_mul_left (a := n) _ (Int.natCast_nonneg n)
    omega
  have step : n * (meeting + 1) ≤ n * units :=
    Int.mul_le_mul_of_nonneg_left larger (Int.natCast_nonneg n)
  rw [Int.mul_add, Int.mul_one] at step
  omega

end Decimal

end PerpetualCurve
