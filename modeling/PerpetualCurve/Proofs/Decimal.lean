import Mathlib.Tactic.Linarith
import PerpetualCurve.Number.Decimal

/-!
# How decimals are ordered and rounded

Decimals are compared by cross-multiplication, so the order does not depend on the scale a number is
written at. A rounded result is the significand nearest to the exact one at the scale it got, and a
whole number is exact at any scale: rounding never takes a result past a whole number, neither down
nor up, and what lies less than half a unit above a whole number keeps it as its floor.
-/

namespace PerpetualCurve

theorem ediv_le_roundHalfEven (num : Int) (den : Nat) : num / den ≤ roundHalfEven num den := by
  unfold roundHalfEven
  split
  · exact Int.le_refl _
  · split
    · omega
    · split <;> omega

/-- A rounded quotient is off by at most half a unit. -/
theorem two_mul_roundHalfEven_mul_le (num : Int) {den : Nat} (pos : 0 < den) :
    2 * (roundHalfEven num den * den) ≤ 2 * num + den := by
  have whole : num / den * den = num - num % den := by
    rw [Int.emod_def, Int.mul_comm]
    omega
  have rest_nonneg : 0 ≤ num % den := Int.emod_nonneg _ (by omega)
  unfold roundHalfEven
  split
  case isTrue low =>
    rw [whole]
    omega
  case isFalse not_low =>
    have up : 2 * ((num / den + 1) * den) ≤ 2 * num + den := by
      rw [Int.add_mul, whole]
      omega
    split
    case isTrue => exact up
    case isFalse =>
      split
      · rw [whole]
        omega
      · exact up

/-- What lies less than half a unit above a whole number is not rounded past it. -/
theorem roundHalfEven_le {num m : Int} {den : Nat} (pos : 0 < den)
    (below : 2 * num < (2 * m + 1) * den) : roundHalfEven num den ≤ m := by
  have close := two_mul_roundHalfEven_mul_le num pos
  have scaled : roundHalfEven num den * den < (m + 1) * den := by
    rw [Int.add_mul] at *
    linarith
  exact Int.lt_add_one_iff.1 (Int.lt_of_mul_lt_mul_right scaled (Int.natCast_nonneg den))

namespace Decimal

variable {a b c d : Decimal}

theorem le_iff : a ≤ b ↔ a.significand * 10 ^ b.scale ≤ b.significand * 10 ^ a.scale := Iff.rfl

theorem pow_scale_pos (d : Decimal) : (0 : Int) < 10 ^ d.scale := Int.pow_pos (by decide)

protected theorem le_refl (a : Decimal) : a ≤ a := Int.le_refl _

protected theorem le_trans (hab : a ≤ b) (hbc : b ≤ c) : a ≤ c := by
  rw [le_iff] at *
  have scaled : a.significand * 10 ^ c.scale * 10 ^ b.scale ≤
      c.significand * 10 ^ a.scale * 10 ^ b.scale := by
    calc a.significand * 10 ^ c.scale * 10 ^ b.scale
        = a.significand * 10 ^ b.scale * 10 ^ c.scale := Int.mul_right_comm _ _ _
      _ ≤ b.significand * 10 ^ a.scale * 10 ^ c.scale :=
          Int.mul_le_mul_of_nonneg_right hab (Int.le_of_lt c.pow_scale_pos)
      _ = b.significand * 10 ^ c.scale * 10 ^ a.scale := Int.mul_right_comm _ _ _
      _ ≤ c.significand * 10 ^ b.scale * 10 ^ a.scale :=
          Int.mul_le_mul_of_nonneg_right hbc (Int.le_of_lt a.pow_scale_pos)
      _ = c.significand * 10 ^ a.scale * 10 ^ b.scale := Int.mul_right_comm _ _ _
  exact Int.le_of_mul_le_mul_right scaled b.pow_scale_pos

protected theorem le_of_not_le (h : ¬ a ≤ b) : b ≤ a := by
  rw [le_iff] at *
  omega

protected theorem le_of_not_lt (h : ¬ a < b) : b ≤ a := Int.not_lt.1 h

theorem max_eq (a b : Decimal) : max a b = if a ≤ b then b else a := rfl

protected theorem le_max_left (a b : Decimal) : a ≤ max a b := by
  rw [max_eq]
  split
  case isTrue le => exact le
  case isFalse => exact Decimal.le_refl a

protected theorem le_max_right (a b : Decimal) : b ≤ max a b := by
  rw [max_eq]
  split
  case isTrue => exact Decimal.le_refl b
  case isFalse not_le => exact Decimal.le_of_not_le not_le

protected theorem min_le_left (a b : Decimal) : min a b ≤ a := by
  show (if a ≤ b then a else b) ≤ a
  split
  case isTrue => exact Decimal.le_refl a
  case isFalse not_le => exact Decimal.le_of_not_le not_le

protected theorem le_min (ha : c ≤ a) (hb : c ≤ b) : c ≤ min a b := by
  show c ≤ if a ≤ b then a else b
  split
  · exact ha
  · exact hb

theorem zero_le_iff : 0 ≤ d ↔ 0 ≤ d.significand := by
  show 0 * 10 ^ d.scale ≤ d.significand * 1 ↔ _
  rw [Int.zero_mul, Int.mul_one]

theorem zero_lt_iff : 0 < d ↔ 0 < d.significand := by
  show 0 * 10 ^ d.scale < d.significand * 1 ↔ _
  rw [Int.zero_mul, Int.mul_one]

theorem one_le_iff : 1 ≤ d ↔ 10 ^ d.scale ≤ d.significand := by
  show 1 * 10 ^ d.scale ≤ d.significand * 1 ↔ _
  rw [Int.one_mul, Int.mul_one]

theorem le_ofNat_iff {n : Nat} {h : n < 2 ^ 96} :
    d ≤ ofNat n h ↔ d.significand ≤ n * 10 ^ d.scale := by
  show d.significand * 1 ≤ n * 10 ^ d.scale ↔ _
  rw [Int.mul_one]

theorem ofNat_lt_iff {n : Nat} {h : n < 2 ^ 96} :
    ofNat n h < d ↔ n * 10 ^ d.scale < d.significand := by
  show n * 10 ^ d.scale < d.significand * 1 ↔ _
  rw [Int.mul_one]

theorem floor_le_of_le_ofNat {n : Nat} {h : n < 2 ^ 96} (le : d ≤ ofNat n h) : d.floor ≤ n :=
  Int.ediv_le_of_le_mul d.pow_scale_pos (le_ofNat_iff.1 le)

theorem le_floor_iff {n : Int} : n ≤ d.floor ↔ n * 10 ^ d.scale ≤ d.significand :=
  Int.le_ediv_iff_mul_le d.pow_scale_pos

theorem ofInt?_eq_some {n : Int} (h : ofInt? n = some d) : d.significand = n ∧ d.scale = 0 := by
  unfold ofInt? ofScaled? at h
  split at h
  · cases h
    exact ⟨rfl, rfl⟩
  · cases h

/-! ## Rounded results -/

variable {num : Int} {den : Nat}

theorem nearest?_significand {scale : Nat} {scale_le : scale ≤ 28}
    (h : nearest? num den scale scale_le = some d) :
    d.significand = roundHalfEven (num * 10 ^ d.scale) den := by
  induction scale with
  | zero =>
    unfold nearest? at h
    split at h
    · cases h
      simp
    · cases h
  | succ scale ih =>
    unfold nearest? at h
    split at h
    · cases h
      rfl
    · exact ih h

/-- Rounding does not take a result below a whole number it reaches. -/
theorem le_floor_of_ofFraction? {n : Int} (h : ofFraction? num den = some d) (pos : 0 < den)
    (reaches : n * den ≤ num) : n ≤ d.floor := by
  rw [le_floor_iff, nearest?_significand h]
  refine Int.le_trans ?_ (ediv_le_roundHalfEven _ _)
  rw [Int.le_ediv_iff_mul_le (Int.natCast_pos.2 pos), Int.mul_right_comm]
  exact Int.mul_le_mul_of_nonneg_right reaches (Int.le_of_lt d.pow_scale_pos)

/-- Rounding does not take a result past a whole number. -/
theorem significand_le_of_ofFraction? {n : Int} (h : ofFraction? num den = some d) (pos : 0 < den)
    (within : num ≤ n * den) : d.significand ≤ n * 10 ^ d.scale := by
  rw [nearest?_significand h]
  apply roundHalfEven_le pos
  have scaled := Int.mul_le_mul_of_nonneg_right within (Int.le_of_lt d.pow_scale_pos)
  have den_pos : (0 : Int) < den := Int.natCast_pos.2 pos
  linarith

/-- A result less than half a unit above a whole number has it for its floor, whatever the scale it
is rounded at. -/
theorem floor_le_of_ofFraction? {n : Int} (h : ofFraction? num den = some d) (pos : 0 < den)
    (below : 2 * num < (2 * n + 1) * den) : d.floor ≤ n := by
  rw [← Int.lt_add_one_iff, floor, Int.ediv_lt_iff_lt_mul d.pow_scale_pos, ← Int.le_sub_one_iff,
    nearest?_significand h]
  apply roundHalfEven_le pos
  have scaled := Int.mul_lt_mul_of_pos_right below d.pow_scale_pos
  have unit : (den : Int) * 1 ≤ den * 10 ^ d.scale :=
    Int.mul_le_mul_of_nonneg_left d.pow_scale_pos (Int.natCast_nonneg den)
  linarith

/-- A result keeps all places if its significand fits with them. -/
theorem ofFraction?_scale (h : ofFraction? num den = some d)
    (fits : (roundHalfEven (num * 10 ^ 28) den).natAbs < 2 ^ 96) : d.scale = 28 := by
  unfold ofFraction? nearest? at h
  rw [dif_pos fits] at h
  cases h
  rfl

/-- A result has a decimal if its whole number fits. -/
theorem exists_ofFraction? (fits : (roundHalfEven num den).natAbs < 2 ^ 96) :
    ∃ d, ofFraction? num den = some d := by
  have found (scale : Nat) (h : scale ≤ 28) : ∃ d, nearest? num den scale h = some d := by
    induction scale with
    | zero => exact ⟨_, dif_pos fits⟩
    | succ scale ih =>
      unfold nearest?
      split
      · exact ⟨_, rfl⟩
      · exact ih _
  exact found 28 (Nat.le_refl 28)

theorem mul?_comm (a b : Decimal) : a.mul? b = b.mul? a := by
  rw [mul?, mul?, Int.mul_comm, Nat.add_comm]

theorem div?_of_whole {m : Int} {n : Nat} (ha : a.significand = m ∧ a.scale = 0)
    (hb : b.significand = n ∧ b.scale = 0) (pos : 0 < n) : a.div? b = ofFraction? m n := by
  have sign : (n : Int).sign = 1 := Int.sign_eq_one_of_pos (Int.natCast_pos.2 pos)
  rw [div?, ha.1, ha.2, hb.1, hb.2, if_neg (by omega), sign]
  simp

/-- One plus what is not negative is at least one. -/
theorem one_le_add? (h : add? 1 a = some d) (nonneg : 0 ≤ a) : 1 ≤ d := by
  rw [one_le_iff, ← Int.one_mul (10 ^ d.scale), ← le_floor_iff]
  refine le_floor_of_ofFraction? h (Nat.pow_pos (by decide)) ?_
  have one_scale : (1 : Decimal).scale = 0 := rfl
  have one_significand : (1 : Decimal).significand = 1 := rfl
  rw [zero_le_iff] at nonneg
  have grown : (10 : Int) ^ a.scale ≤ 10 ^ a.scale + a.significand := by omega
  rw [one_scale, one_significand]
  simpa using grown

/-- A whole number times at least one is at least the number. -/
theorem le_floor_mul? {n : Int} (h : mul? a b = some d) (whole : a.significand = n ∧ a.scale = 0)
    (n_nonneg : 0 ≤ n) (one_le : 1 ≤ b) : n ≤ d.floor := by
  refine le_floor_of_ofFraction? h (Nat.pow_pos (by decide)) ?_
  rw [one_le_iff] at one_le
  rw [whole.1, whole.2, Nat.zero_add, Int.natCast_pow]
  exact Int.mul_le_mul_of_nonneg_left one_le n_nonneg

end Decimal

end PerpetualCurve
