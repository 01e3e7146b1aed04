import Mathlib.Tactic.Ring
import PerpetualCurve.Proofs.Failure
import PerpetualCurve.Proofs.Terminal

/-!
# What rounding takes from a curve

The depth of a start is a root rounded down, and its quote reserve a quotient rounded down. What
both cut off the quote reserve asked for is worth less than twice the depth and the base reserve
together, in units of the product of the reserves. No step of a start fails but the division, and
that only beside an empty base reserve.

Scaling rounds base reserve and depth down, each for itself. The ratio between them, on which the
price depends, can drift either way, but by no more than one unit of base or of depth is worth.
-/

namespace PerpetualCurve

/-! ## Starting a curve -/

/-- Two amounts have a product whose root is an amount. -/
theorem Amount.sqrt_mul_lt (a b : Amount) : (a.toNat * b.toNat).sqrt < 2 ^ 128 := by
  rw [Nat.sqrt_lt]
  exact a.mul_lt b

/-- The square of a root that was rounded down, divided by one of the factors, is no more than the
other one. -/
theorem sq_sqrt_div_le (a b : Nat) : (a * b).sqrt ^ 2 / a ≤ b :=
  Nat.div_le_of_le_mul (Nat.sqrt_le' (a * b))

/-- What is missing in that quotient is the remainder of the root and the one of the division. -/
theorem sub_sq_sqrt_div_mul_lt {a : Nat} (b : Nat) (pos : 0 < a) :
    (b - (a * b).sqrt ^ 2 / a) * a < 2 * (a * b).sqrt + a := by
  have root_cut : a * b < (a * b).sqrt ^ 2 + 2 * (a * b).sqrt + 1 := by
    calc a * b
        < ((a * b).sqrt + 1) ^ 2 := Nat.lt_succ_sqrt' (a * b)
      _ = (a * b).sqrt ^ 2 + 2 * (a * b).sqrt + 1 := by ring
  have quotient_cut : (a * b).sqrt ^ 2 < (a * b).sqrt ^ 2 / a * a + a := Nat.lt_div_mul_add pos
  -- the bounds lie on either side of the square of the root
  rw [Nat.sub_mul, Nat.mul_comm b]
  omega

namespace Curve

variable {curve next : Curve} {base quote peg : Amount}

/-- A curve as it starts with `base` and at most `quote`: the depth is the root of their product,
the quote reserve what the depth leaves beside the base, and no position is open. -/
structure StartsWith (curve : Curve) (base quote peg : Amount) : Prop where
  base_eq : curve.base = base
  peg_eq : curve.peg = peg
  flat : curve.netBase = 0
  sq_depth_le : curve.sqrtK.toNat ^ 2 ≤ base.toNat * quote.toNat
  lt_sq_depth_succ : base.toNat * quote.toNat < (curve.sqrtK.toNat + 1) ^ 2
  quote_eq : curve.quote.toNat = curve.sqrtK.toNat ^ 2 / base.toNat
  quote_le : curve.quote.toNat ≤ quote.toNat
  loss_lt : (quote.toNat - curve.quote.toNat) * base.toNat < 2 * curve.sqrtK.toNat + base.toNat
  terminalQuote_eq : curve.terminalQuote = curve.quote
  terminalReserves_eq : curve.terminalReserves = .ok curve.toReserves

/-- The root of the product, which is an amount. -/
def startDepth (base quote : Amount) : Amount :=
  ⟨(base.toNat * quote.toNat).sqrt, base.sqrt_mul_lt quote⟩

/-- Neither the product nor its root can be too wide, so a start comes down to the division. -/
theorem balanced_eq_division (base quote peg : Amount) :
    balanced base quote peg = (do
      let rebuilt ← divide ((startDepth base quote).toNat ^ 2) base.toNat
        (.divisionByZero .initialQuote)
      let rebuilt ← narrow .unsigned256 rebuilt
      return {
        base, quote := rebuilt, sqrtK := startDepth base quote, peg,
        terminalQuote := rebuilt }) := by
  have root_eq : narrow .unsigned256 (base.toNat * quote.toNat).sqrt =
      .ok (startDepth base quote) := narrow_eq_ok_iff.2 rfl
  simp only [balanced, Unsigned.checked_of_lt (base.mul_lt quote), squareRoot, squareDepth_eq,
    root_eq, Outcome.ok_bind]

theorem balanced_of_no_base (empty : base.toNat = 0) :
    balanced base quote peg = .error (.divisionByZero .initialQuote) := by
  rw [balanced_eq_division, divide_eq_error_iff.2 ⟨empty, rfl⟩]
  rfl

theorem balanced_startsWith (h : balanced base quote peg = .ok curve) :
    curve.StartsWith base quote peg := by
  have rebuilt := balanced_quoteRebuilt h
  obtain ⟨sqrtK, rebuiltQuote, depth_eq, base_ne, quote_eq, rfl⟩ := balanced_eq_ok_iff.1 h
  have base_pos := Nat.pos_of_ne_zero base_ne
  constructor
  case base_eq => rfl
  case peg_eq => rfl
  case flat => rfl
  case sq_depth_le =>
    rw [depth_eq]
    exact Nat.sqrt_le' _
  case lt_sq_depth_succ =>
    rw [depth_eq]
    exact Nat.lt_succ_sqrt' _
  case quote_eq => exact quote_eq
  case quote_le =>
    rw [quote_eq, depth_eq]
    exact sq_sqrt_div_le _ _
  case loss_lt =>
    rw [quote_eq, depth_eq]
    exact sub_sq_sqrt_div_mul_lt _ base_pos
  case terminalQuote_eq => rfl
  case terminalReserves_eq => exact terminalReserves_of_flat rebuilt rfl

/-- Beside some base, neither the product nor the root nor the quotient can be too wide. -/
theorem exists_balanced (quote peg : Amount) (nonempty : base.toNat ≠ 0) :
    ∃ curve, balanced base quote peg = .ok curve := by
  have quote_lt : (base.toNat * quote.toNat).sqrt ^ 2 / base.toNat < 2 ^ 128 :=
    Nat.lt_of_le_of_lt (sq_sqrt_div_le _ _) quote.toNat_lt
  exact ⟨_, balanced_eq_ok_iff.2 ⟨startDepth base quote, ⟨_, quote_lt⟩, rfl, nonempty, rfl, rfl⟩⟩

/-- A start fails beside an empty base reserve, for a cause of its own, and nowhere else. What it
loses of the quote is the remainder of the root and the one of the division. -/
theorem balanced_total (base quote peg : Amount) :
    (∀ e, balanced base quote peg = .error e ↔
      base.toNat = 0 ∧ e = .divisionByZero .initialQuote) ∧
    (1 ≤ base.toNat →
      ∃ curve, balanced base quote peg = .ok curve ∧ curve.StartsWith base quote peg) := by
  constructor
  · intro e
    by_cases empty : base.toNat = 0
    · rw [balanced_of_no_base empty, Except.error.injEq, eq_comm]
      exact (and_iff_right empty).symm
    · obtain ⟨curve, h⟩ := exists_balanced quote peg empty
      simp [h, empty]
  · intro nonempty
    obtain ⟨curve, h⟩ := exists_balanced quote peg (Nat.ne_of_gt nonempty)
    exact ⟨curve, h, balanced_startsWith h⟩

/-- The start from the widest base reserve and one unit of quote less. Of the quote the root and the
division take one unit more. -/
def widest : Curve where
  base := .ofNat (2 ^ 128 - 1)
  quote := .ofNat (2 ^ 128 - 3)
  sqrtK := .ofNat (2 ^ 128 - 2)
  peg := .ofNat 1000
  terminalQuote := .ofNat (2 ^ 128 - 3)

theorem widest_startsWith :
    balanced (.ofNat (2 ^ 128 - 1)) (.ofNat (2 ^ 128 - 2)) (.ofNat 1000) = .ok widest ∧
    widest.StartsWith (.ofNat (2 ^ 128 - 1)) (.ofNat (2 ^ 128 - 2)) (.ofNat 1000) ∧
    balanced 0 (.ofNat (2 ^ 128 - 2)) (.ofNat 1000) = .error (.divisionByZero .initialQuote) := by
  have started : balanced (.ofNat (2 ^ 128 - 1)) (.ofNat (2 ^ 128 - 2)) (.ofNat 1000) =
      .ok widest := by
    decide +kernel
  obtain ⟨-, starts⟩ := balanced_total (.ofNat (2 ^ 128 - 1)) (.ofNat (2 ^ 128 - 2)) (.ofNat 1000)
  obtain ⟨fails_iff, -⟩ := balanced_total 0 (.ofNat (2 ^ 128 - 2)) (.ofNat 1000)
  obtain ⟨curve, h, startsWith⟩ := starts (by decide +kernel)
  cases started.symm.trans h
  exact ⟨started, startsWith, (fails_iff _).2 ⟨rfl, rfl⟩⟩

/-! ## Scaling the depth -/

/-- Of two numbers scaled by one ratio and rounded down, neither is ahead of the ratio between them
by more than one unit of the other is worth. -/
theorem scaled_mul_le (a b n : Nat) {d : Nat} (pos : 0 < d) :
    a * n / d * b ≤ a * (b * n / d) + a := by
  apply Nat.le_of_mul_le_mul_left _ pos
  calc d * (a * n / d * b)
      = a * n / d * d * b := by ring
    _ ≤ a * n * b := Nat.mul_le_mul_right _ (Nat.div_mul_le_self _ _)
    _ = a * (b * n) := by ring
    _ ≤ a * (d * (b * n / d + 1)) :=
        Nat.mul_le_mul_left _ (Nat.le_of_lt (Nat.lt_mul_div_succ _ pos))
    _ = d * (a * (b * n / d) + a) := by ring

/-- Scaling keeps the ratio of depth and base reserve up to one unit of either, rebuilds the quote
reserve, and leaves all other fields, the terminal reserve among them, as they are. -/
theorem withScaledDepth_ratio {numerator denominator : Amount}
    (h : curve.withScaledDepth numerator denominator = .ok next) :
    -(curve.base.toNat : Int) ≤
        next.sqrtK.toNat * curve.base.toNat - curve.sqrtK.toNat * next.base.toNat ∧
      next.sqrtK.toNat * curve.base.toNat - curve.sqrtK.toNat * next.base.toNat ≤
        (curve.sqrtK.toNat : Int) ∧
      next.quote.toNat * next.base.toNat ≤ next.sqrtK.toNat ^ 2 ∧
      next.sqrtK.toNat ^ 2 < (next.quote.toNat + 1) * next.base.toNat ∧
      next = { curve with base := next.base, quote := next.quote, sqrtK := next.sqrtK } := by
  have rebuilt := withScaledDepth_quoteRebuilt h
  have within := Reserves.OnDepth.mul_le (.inl rebuilt)
  have short := rebuilt.lt_mul_succ
  obtain ⟨base, sqrtK, quote, hbase, hsqrtK, -, -, rfl⟩ := withScaledDepth_eq_ok_iff.1 h
  obtain ⟨-, denominator_ne, base_eq⟩ := mulDiv_eq_ok_iff.1 hbase
  obtain ⟨-, -, sqrtK_eq⟩ := mulDiv_eq_ok_iff.1 hsqrtK
  have pos := Nat.pos_of_ne_zero denominator_ne
  have depth_ahead := scaled_mul_le curve.sqrtK.toNat curve.base.toNat numerator.toNat pos
  have base_ahead := scaled_mul_le curve.base.toNat curve.sqrtK.toNat numerator.toNat pos
  rw [← sqrtK_eq, ← base_eq] at depth_ahead base_ahead
  rw [Nat.mul_comm] at within short
  refine ⟨?_, ?_, within, short, rfl⟩
  · dsimp only
    rw [Int.mul_comm (sqrtK.toNat : Int), Int.mul_comm (curve.sqrtK.toNat : Int)]
    omega
  · dsimp only
    omega

/-- On the shrunk `turnedAround` the depth falls behind the base reserve by most of a unit. -/
theorem turnedAround_ratio :
    ∃ next, turnedAround.withScaledDepth (.ofNat 999) (.ofNat 1000) = .ok next ∧
      next.sqrtK.toNat * turnedAround.base.toNat - turnedAround.sqrtK.toNat * next.base.toNat =
        (-17862120000000 : Int) ∧
      -(turnedAround.base.toNat : Int) ≤ -17862120000000 ∧
      next.quote.toNat * next.base.toNat ≤ next.sqrtK.toNat ^ 2 ∧
      next.sqrtK.toNat ^ 2 < (next.quote.toNat + 1) * next.base.toNat ∧
      next = { turnedAround with
        base := next.base, quote := next.quote, sqrtK := next.sqrtK } := by
  have scaled : turnedAround.withScaledDepth (.ofNat 999) (.ofNat 1000) =
      .ok { turnedAround with
        base := .ofNat 19960020000000, quote := .ofNat 9980009999997,
        sqrtK := .ofNat 14113865494617 } := by
    decide +kernel
  obtain ⟨behind, -, within, short, same⟩ := withScaledDepth_ratio scaled
  have drift : (14113865494617 * 19980000000000 - 14127993488106 * 19960020000000 : Int) =
      -17862120000000 := by decide
  exact ⟨_, scaled, drift, drift ▸ behind, within, short, same⟩

end Curve

end PerpetualCurve
