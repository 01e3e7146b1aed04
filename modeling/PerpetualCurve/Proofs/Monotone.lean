import PerpetualCurve.Proofs.Decimal

/-!
# Rounding keeps the order

A larger result is never rounded to a smaller decimal. At one scale this is the order of the nearest
whole numbers. Between two scales it is the width of the significand: a result is rounded at a
coarser scale only where it is too large for the finer one, and there it stays above everything the
finer scale can write. Sums, products and whatever else is a rounded fraction inherit the order.
-/

namespace PerpetualCurve

theorem roundHalfEven_le_ediv_add_one (num : Int) (den : Nat) :
    roundHalfEven num den ≤ num / den + 1 := by
  unfold roundHalfEven
  split
  · omega
  · split
    · exact Int.le_refl _
    · split <;> omega

theorem roundHalfEven_nonneg {num : Int} (den : Nat) (nonneg : 0 ≤ num) :
    0 ≤ roundHalfEven num den :=
  Int.le_trans (Int.ediv_nonneg nonneg (Int.natCast_nonneg den)) (ediv_le_roundHalfEven num den)

/-- The whole numbers up to the rounded one are those whose lower midpoint the fraction passes. An
even number is reached from the midpoint itself. -/
theorem le_roundHalfEven_iff {num m : Int} {den : Nat} (pos : 0 < den) :
    m ≤ roundHalfEven num den ↔
      (2 * m - 1) * den ≤ 2 * num ∧ (m % 2 = 1 → (2 * m - 1) * den ≠ 2 * num) := by
  have den_pos : (0 : Int) < den := Int.natCast_pos.2 pos
  have whole : num / den * den + num % den = num := Int.ediv_mul_add_emod num den
  have rest_nonneg : 0 ≤ num % den := Int.emod_nonneg _ (by omega)
  have rest_lt : num % den < den := Int.emod_lt_of_pos _ den_pos
  rcases Int.lt_trichotomy m (num / den + 1) with below | rfl | above
  · have low := ediv_le_roundHalfEven num den
    have passed : (2 * m - 1) * den ≤ (2 * (num / den) - 1) * den :=
      Int.mul_le_mul_of_nonneg_right (by omega) (Int.le_of_lt den_pos)
    rw [Int.sub_mul (2 * (num / den)), Int.one_mul, Int.mul_assoc 2 (num / den)] at passed
    exact ⟨fun _ => ⟨by omega, by omega⟩, fun _ => by omega⟩
  · have midpoint : (2 * (num / den + 1) - 1) * den = 2 * (num / den * den) + den := by
      rw [show 2 * (num / den + 1) - 1 = 2 * (num / den) + 1 by omega, Int.add_mul, Int.one_mul,
        Int.mul_assoc]
    rw [midpoint]
    unfold roundHalfEven
    split
    · omega
    · split
      · omega
      · split <;> omega
  · have high := roundHalfEven_le_ediv_add_one num den
    have missed : (2 * (num / den) + 3) * den ≤ (2 * m - 1) * den :=
      Int.mul_le_mul_of_nonneg_right (by omega) (Int.le_of_lt den_pos)
    rw [Int.add_mul, Int.mul_assoc] at missed
    exact ⟨fun _ => by omega, fun ⟨passed, _⟩ => by omega⟩

/-- A rounded quotient is off by at most half a unit, also downward. -/
theorem two_mul_le_roundHalfEven_mul (num : Int) {den : Nat} (pos : 0 < den) :
    2 * num ≤ 2 * (roundHalfEven num den * den) + den := by
  have missed : ¬ roundHalfEven num den + 1 ≤ roundHalfEven num den := Int.not_le.2 (by omega)
  rw [le_roundHalfEven_iff pos] at missed
  generalize roundHalfEven num den = m at *
  rw [show 2 * (m + 1) - 1 = 2 * m + 1 by omega, Int.add_mul, Int.one_mul, Int.mul_assoc] at missed
  omega

theorem roundHalfEven_mono {num num' : Int} {den den' : Nat} (pos : 0 < den) (pos' : 0 < den')
    (le : num * den' ≤ num' * den) : roundHalfEven num den ≤ roundHalfEven num' den' := by
  have den_pos : (0 : Int) < den := Int.natCast_pos.2 pos
  have den_pos' : (0 : Int) < den' := Int.natCast_pos.2 pos'
  obtain ⟨passed, odd⟩ := (le_roundHalfEven_iff pos).1 (Int.le_refl (roundHalfEven num den))
  generalize roundHalfEven num den = m at *
  have scaled : (2 * m - 1) * den' * den ≤ 2 * num * den' := by
    rw [Int.mul_right_comm]
    exact Int.mul_le_mul_of_nonneg_right passed (Int.le_of_lt den_pos')
  have doubled : 2 * num * den' ≤ 2 * num' * den := by
    rw [Int.mul_assoc, Int.mul_assoc]
    omega
  rw [le_roundHalfEven_iff pos']
  refine ⟨Int.le_of_mul_le_mul_right (Int.le_trans scaled doubled) den_pos, ?_⟩
  -- a tie on the right is a tie on the left, and the odd number does not take it
  intro m_odd tie
  apply odd m_odd
  rw [tie] at scaled
  have tied : (2 * m - 1) * den * den' = 2 * num * den' := by
    rw [Int.mul_right_comm, tie]
    omega
  exact Int.eq_of_mul_eq_mul_right (Int.ne_of_gt den_pos') tied

namespace Decimal

variable {a a' b b' c d e : Decimal} {num num' : Int} {den den' : Nat}

/-- At no finer scale does the significand fit. -/
theorem nearest?_maximal {scale finer : Nat} {scale_le : scale ≤ 28}
    (h : nearest? num den scale scale_le = some d) (above : d.scale < finer)
    (within : finer ≤ scale) : 2 ^ 96 ≤ (roundHalfEven (num * 10 ^ finer) den).natAbs := by
  induction scale with
  | zero => omega
  | succ scale ih =>
    unfold nearest? at h
    split at h
    case isTrue fits =>
      cases h
      exact absurd within (Nat.not_le.2 above)
    case isFalse past =>
      rcases Nat.lt_or_eq_of_le within with less | rfl
      · exact ih h (Nat.lt_succ_iff.1 less)
      · exact Nat.not_lt.1 past

/-- What is rounded at a scale lies above every decimal of a finer scale, as it is too large for
that scale. -/
theorem le_of_finer (h : ofFraction? num den = some d) (pos : 0 < den) (nonneg : 0 ≤ num)
    (finer : d.scale < e.scale) : e ≤ d := by
  have scaled_nonneg : 0 ≤ num * 10 ^ d.scale :=
    Int.mul_nonneg nonneg (Int.le_of_lt d.pow_scale_pos)
  have next : num * 10 ^ (d.scale + 1) = num * 10 ^ d.scale * 10 := by
    rw [Int.pow_succ, Int.mul_assoc]
  have past := nearest?_maximal h (Nat.lt_succ_self d.scale) (Nat.lt_of_lt_of_le finer e.scale_le)
  have rounded_nonneg : 0 ≤ roundHalfEven (num * 10 ^ d.scale * 10) den :=
    roundHalfEven_nonneg den (by omega)
  have past : 2 ^ 96 ≤ roundHalfEven (num * 10 ^ d.scale * 10) den := by
    rw [Nat.succ_eq_add_one, next] at past
    omega
  -- a tenth of the largest significand, rounded up
  have tenth : 7922816251426433759354395034 ≤ d.significand := by
    rw [nearest?_significand h, le_roundHalfEven_iff pos]
    rw [le_roundHalfEven_iff pos] at past
    omega
  have fits := e.natAbs_lt
  rw [le_iff]
  calc e.significand * 10 ^ d.scale
      ≤ 7922816251426433759354395034 * 10 * 10 ^ d.scale :=
        Int.mul_le_mul_of_nonneg_right (by omega) (Int.le_of_lt d.pow_scale_pos)
    _ = 7922816251426433759354395034 * 10 ^ (d.scale + 1) := by
        rw [Int.pow_succ, Int.mul_assoc, Int.mul_comm 10]
    _ ≤ 7922816251426433759354395034 * 10 ^ e.scale :=
        Int.mul_le_mul_of_nonneg_left (pow_le_pow_right₀ (by decide) finer) (by decide)
    _ ≤ d.significand * 10 ^ e.scale :=
        Int.mul_le_mul_of_nonneg_right tenth (Int.le_of_lt e.pow_scale_pos)

/-- A larger fraction is rounded to a larger decimal. -/
theorem ofFraction?_mono (h : ofFraction? num den = some d) (h' : ofFraction? num' den' = some e)
    (pos : 0 < den) (pos' : 0 < den') (nonneg : 0 ≤ num) (le : num * den' ≤ num' * den) :
    d ≤ e := by
  have den_pos : (0 : Int) < den := Int.natCast_pos.2 pos
  have den_pos' : (0 : Int) < den' := Int.natCast_pos.2 pos'
  have nonneg' : 0 ≤ num' := by
    apply Int.le_of_mul_le_mul_right (a := den) _ den_pos
    rw [Int.zero_mul]
    exact Int.le_trans (Int.mul_nonneg nonneg (Int.le_of_lt den_pos')) le
  have ordered : roundHalfEven (num * 10 ^ e.scale) den ≤ e.significand := by
    rw [nearest?_significand h']
    apply roundHalfEven_mono pos pos'
    rw [Int.mul_right_comm, Int.mul_right_comm num']
    exact Int.mul_le_mul_of_nonneg_right le (Int.le_of_lt e.pow_scale_pos)
  rcases Nat.lt_trichotomy d.scale e.scale with finer | same | coarser
  · -- the larger fraction would not fit its scale, as the smaller one does not
    have past := nearest?_maximal h finer e.scale_le
    have rounded_nonneg : 0 ≤ roundHalfEven (num * 10 ^ e.scale) den :=
      roundHalfEven_nonneg den (Int.mul_nonneg nonneg (Int.le_of_lt e.pow_scale_pos))
    have fits := e.natAbs_lt
    omega
  · rw [← same, ← nearest?_significand h] at ordered
    rw [le_iff, same]
    exact Int.mul_le_mul_of_nonneg_right ordered (Int.le_of_lt e.pow_scale_pos)
  · exact le_of_finer h' pos' nonneg' coarser

/-- Rounding does not take a fraction below a decimal it reaches. -/
theorem le_of_ofFraction? (h : ofFraction? num den = some d) (pos : 0 < den) (nonneg : 0 ≤ num)
    (reaches : e.significand * den ≤ num * 10 ^ e.scale) : e ≤ d := by
  by_cases finer : d.scale < e.scale
  · exact le_of_finer h pos nonneg finer
  · obtain ⟨more, hmore⟩ := Nat.le.dest (Nat.not_lt.1 finer)
    have ten_pos : (0 : Int) < 10 ^ more := Int.pow_pos (by decide)
    have reached : e.significand * 10 ^ more ≤ d.significand := by
      rw [nearest?_significand h]
      refine Int.le_trans ?_ (ediv_le_roundHalfEven _ _)
      rw [Int.le_ediv_iff_mul_le (Int.natCast_pos.2 pos), Int.mul_right_comm, ← hmore, Int.pow_add,
        ← Int.mul_assoc]
      exact Int.mul_le_mul_of_nonneg_right reaches (Int.le_of_lt ten_pos)
    rw [le_iff, ← hmore, Int.pow_add, Int.mul_comm (10 ^ e.scale), ← Int.mul_assoc]
    exact Int.mul_le_mul_of_nonneg_right reached (Int.le_of_lt e.pow_scale_pos)

theorem floor_mono (le : d ≤ e) : d.floor ≤ e.floor := by
  rw [le_floor_iff]
  rw [le_iff] at le
  have reached : d.floor * 10 ^ d.scale ≤ d.significand := le_floor_iff.1 (Int.le_refl _)
  have scaled : d.floor * 10 ^ e.scale * 10 ^ d.scale ≤ e.significand * 10 ^ d.scale :=
    calc d.floor * 10 ^ e.scale * 10 ^ d.scale
        = d.floor * 10 ^ d.scale * 10 ^ e.scale := Int.mul_right_comm _ _ _
      _ ≤ d.significand * 10 ^ e.scale :=
          Int.mul_le_mul_of_nonneg_right reached (Int.le_of_lt e.pow_scale_pos)
      _ ≤ e.significand * 10 ^ d.scale := le
  exact Int.le_of_mul_le_mul_right scaled d.pow_scale_pos

protected theorem max_le_max_right (le : a ≤ b) : max a c ≤ max b c := by
  rw [max_eq a]
  split
  case isTrue => exact Decimal.le_max_right b c
  case isFalse => exact Decimal.le_trans le (Decimal.le_max_left b c)

protected theorem min_le_min_left (le : a ≤ b) : min c a ≤ min c b := by
  have min_le : min c a ≤ a := by
    show (if c ≤ a then c else a) ≤ a
    split
    case isTrue le => exact le
    case isFalse => exact Decimal.le_refl a
  exact Decimal.le_min (Decimal.min_le_left c a) (Decimal.le_trans min_le le)

/-! ## Rounded operations -/

theorem mul?_mono (h : a.mul? b = some d) (h' : a'.mul? b' = some e) (a_nonneg : 0 ≤ a)
    (b_nonneg : 0 ≤ b) (ha : a ≤ a') (hb : b ≤ b') : d ≤ e := by
  rw [zero_le_iff] at a_nonneg b_nonneg
  rw [le_iff] at ha hb
  refine ofFraction?_mono h h' (Nat.pow_pos (by decide)) (Nat.pow_pos (by decide))
    (Int.mul_nonneg a_nonneg b_nonneg) ?_
  rw [Int.natCast_pow, Int.natCast_pow, Int.pow_add, Int.pow_add]
  calc a.significand * b.significand * (10 ^ a'.scale * 10 ^ b'.scale)
      = a.significand * 10 ^ a'.scale * (b.significand * 10 ^ b'.scale) := by ac_rfl
    _ ≤ a'.significand * 10 ^ a.scale * (b'.significand * 10 ^ b.scale) := by
        have left : 0 ≤ b.significand * 10 ^ b'.scale :=
          Int.mul_nonneg b_nonneg (Int.le_of_lt b'.pow_scale_pos)
        have right : 0 ≤ a'.significand * 10 ^ a.scale :=
          Int.le_trans (Int.mul_nonneg a_nonneg (Int.le_of_lt a'.pow_scale_pos)) ha
        exact Int.mul_le_mul ha hb left right
    _ = a'.significand * b'.significand * (10 ^ a.scale * 10 ^ b.scale) := by ac_rfl

theorem one_add?_mono (h : add? 1 a = some d) (h' : add? 1 b = some e) (nonneg : 0 ≤ a)
    (le : a ≤ b) : d ≤ e := by
  have one_scale : (1 : Decimal).scale = 0 := rfl
  have one_significand : (1 : Decimal).significand = 1 := rfl
  have a_pos := a.pow_scale_pos
  rw [zero_le_iff] at nonneg
  rw [le_iff] at le
  refine ofFraction?_mono h h' (Nat.pow_pos (by decide)) (Nat.pow_pos (by decide)) ?_ ?_
  · rw [one_scale, one_significand]
    omega
  · rw [one_scale, one_significand]
    simp only [Int.one_mul, Int.pow_zero, Int.mul_one, Nat.zero_add, Int.natCast_pow]
    rw [Int.add_mul, Int.add_mul, Int.mul_comm (10 ^ a.scale)]
    exact Int.add_le_add_left le _

theorem add?_comm (a b : Decimal) : a.add? b = b.add? a := by
  rw [add?, add?, Int.add_comm, Nat.add_comm]

/-- Adding what is not negative does not take a decimal down. -/
theorem le_add? (h : a.add? b = some d) (a_nonneg : 0 ≤ a) (b_nonneg : 0 ≤ b) : a ≤ d := by
  rw [zero_le_iff] at a_nonneg b_nonneg
  have left : 0 ≤ a.significand * 10 ^ b.scale :=
    Int.mul_nonneg a_nonneg (Int.le_of_lt b.pow_scale_pos)
  have right : 0 ≤ b.significand * 10 ^ a.scale :=
    Int.mul_nonneg b_nonneg (Int.le_of_lt a.pow_scale_pos)
  refine le_of_ofFraction? h (Nat.pow_pos (by decide)) (Int.add_nonneg left right) ?_
  have grown : a.significand * 10 ^ b.scale ≤
      a.significand * 10 ^ b.scale + b.significand * 10 ^ a.scale := by omega
  calc a.significand * (10 ^ (a.scale + b.scale) : Nat)
      = a.significand * 10 ^ b.scale * 10 ^ a.scale := by
        rw [Int.natCast_pow, Nat.cast_ofNat, Nat.add_comm, Int.pow_add, Int.mul_assoc]
    _ ≤ _ := Int.mul_le_mul_of_nonneg_right grown (Int.le_of_lt a.pow_scale_pos)

end Decimal

end PerpetualCurve
