import Mathlib.Tactic.Linarith
import PerpetualCurve.Proofs.Cost

/-!
# The closest peg a budget pays for

On the way to a target that costs too much, the cost grows with the distance walked: it is the
terminal gap times the units, rounded down to quote units. The walk takes as many units as the
budget divided by the gap, and this quotient does not know that the cost will be rounded. One unit
more may still cost no more than the budget. So the walk never leaves out a peg that costs less than
the budget, but it may leave out one that costs exactly that.
-/

namespace PerpetualCurve

/-- A signed number has room for everything between two others. -/
theorem Signed.exists_toInt_eq {bits : Nat} {a b : Signed bits} {i : Int}
    (low : min a.toInt b.toInt ≤ i) (high : i ≤ max a.toInt b.toInt) :
    ∃ s : Signed bits, s.toInt = i := by
  have a_low := a.neg_le_toInt
  have b_low := b.neg_le_toInt
  have a_high := a.toInt_lt
  have b_high := b.toInt_lt
  exact ⟨⟨i, by omega, by omega⟩, rfl⟩

/-- How far two amounts are apart. -/
def Unsigned.distance {bits : Nat} (a b : Unsigned bits) : Nat := (a.toNat - b.toNat : Int).natAbs

@[simp] theorem Unsigned.distance_self {bits : Nat} (a : Unsigned bits) : a.distance a = 0 := by
  rw [Unsigned.distance, Int.sub_self]
  rfl

/-- What is not negative is scaled down to quote units like a natural number. -/
theorem tdiv_scales_eq {product : Int} (nonneg : 0 ≤ product) :
    (product.tdiv Scale.reserveToQuote).tdiv Scale.peg =
      (product.natAbs / (Scale.reserveToQuote * Scale.peg) : Nat) := by
  obtain ⟨n, rfl⟩ := Int.eq_ofNat_of_zero_le nonneg
  rw [tdiv_scales, ← Int.ofNat_tdiv, Int.natAbs_natCast]

namespace Curve

variable {curve : Curve} {budget price peg target other : Amount} {cost limit : SignedAmount}

/-- What a walk of `units` costs toward a target that is not free. -/
def walkCost (curve : Curve) (units : Nat) : Nat :=
  curve.quote.distance curve.terminalQuote * units / (Scale.reserveToQuote * Scale.peg)

section WalkCost

variable {n m : Nat}

theorem walkCost_mono (curve : Curve) (h : n ≤ m) : curve.walkCost n ≤ curve.walkCost m :=
  Nat.div_le_div_right (Nat.mul_le_mul_left _ h)

/-- As many units as `n` divided by the gap are within `n`. -/
theorem walkCost_div_le (curve : Curve) (n : Nat) :
    curve.walkCost (n * (Scale.reserveToQuote * Scale.peg) /
      curve.quote.distance curve.terminalQuote) ≤ n := by
  unfold walkCost
  calc _ ≤ n * (Scale.reserveToQuote * Scale.peg) / (Scale.reserveToQuote * Scale.peg) :=
        Nat.div_le_div_right (Nat.mul_div_le _ _)
    _ = n := Nat.mul_div_cancel _ (by decide)

/-- One more reaches `n`, but need not pass it. -/
theorem le_walkCost_div_succ (pos : 0 < curve.quote.distance curve.terminalQuote) :
    n ≤ curve.walkCost (n * (Scale.reserveToQuote * Scale.peg) /
      curve.quote.distance curve.terminalQuote + 1) := by
  unfold walkCost
  rw [Nat.le_div_iff_mul_le (by decide)]
  exact Nat.le_of_lt (Nat.lt_mul_div_succ _ pos)

end WalkCost

/-- `other` lies on the same side of the curve's peg as `target`. -/
def Toward (curve : Curve) (target other : Amount) : Prop :=
  curve.peg.toNat < target.toNat ∧ curve.peg.toNat ≤ other.toNat ∨
    target.toNat < curve.peg.toNat ∧ other.toNat ≤ curve.peg.toNat

theorem repegCost_pos (h : curve.repegCost target = .ok cost) (pos : 0 < cost.toInt) :
    0 < (curve.quote.toNat - curve.terminalQuote.toNat : Int) *
      (target.toNat - curve.peg.toNat) := by
  by_contra nonpos
  have cost_le : cost.toInt ≤ 0 := by
    rw [repegCost_toInt h]
    apply tdiv_scales_le
    rw [Int.zero_mul]
    exact Int.not_lt.1 nonpos
  omega

/-- On the side of a target that is not free, a peg costs what the walk to it does. -/
theorem repegCost_of_toward (hlimit : curve.repegCost target = .ok limit) (pos : 0 < limit.toInt)
    (toward : curve.Toward target other) (h : curve.repegCost other = .ok cost) :
    cost.toInt = curve.walkCost (other.distance curve.peg) := by
  have target_pos := repegCost_pos hlimit pos
  have nonneg : 0 ≤ (curve.quote.toNat - curve.terminalQuote.toNat : Int) *
      (other.toNat - curve.peg.toNat) := by
    unfold Toward at toward
    rcases pos_and_pos_or_neg_and_neg_of_mul_pos target_pos with ⟨gap_pos, up⟩ | ⟨gap_neg, down⟩
    · exact Int.mul_nonneg (Int.le_of_lt gap_pos) (by omega)
    · exact Int.mul_nonneg_of_nonpos_of_nonpos (Int.le_of_lt gap_neg) (by omega)
  rw [repegCost_toInt h, tdiv_scales_eq nonneg, Int.natAbs_mul]
  rfl

/-- A target that is not free costs what the walk to it does. -/
theorem repegCost_target (hlimit : curve.repegCost target = .ok limit) (pos : 0 < limit.toInt) :
    limit.toInt = curve.walkCost (target.distance curve.peg) := by
  have differs : target.toNat ≠ curve.peg.toNat := by
    intro same
    have := repegCost_of_same hlimit (Unsigned.ext same)
    omega
  have toward : curve.Toward target target := by
    unfold Toward
    omega
  exact repegCost_of_toward hlimit pos toward hlimit

/-- If a target has a cost above zero, so have the pegs on the way there. -/
theorem exists_repegCost_of_between (hlimit : curve.repegCost target = .ok limit)
    (pos : 0 < limit.toInt)
    (between : min curve.peg.toNat target.toNat ≤ other.toNat ∧
      other.toNat ≤ max curve.peg.toNat target.toNat) :
    ∃ cost, curve.repegCost other = .ok cost := by
  have target_pos := repegCost_pos hlimit pos
  simp only [repegCost, Outcome.bind_eq_ok_iff, Outcome.pure_eq_ok_iff,
    Unsigned.toSigned_eq_ok_iff, Signed.checked_eq_ok_iff] at hlimit ⊢
  obtain ⟨gap, hgap, newPeg, hnew, oldPeg, hold, move, hmove, product, hproduct, -⟩ := hlimit
  rw [← terminalQuoteGap_toInt hgap, ← hnew, ← hold, ← hmove] at target_pos
  have zero : (0 : SignedAmount).toInt = 0 := rfl
  obtain ⟨otherPeg, hother⟩ : ∃ s : SignedAmount, s.toInt = other.toNat :=
    Signed.exists_toInt_eq (a := oldPeg) (b := newPeg) (by omega) (by omega)
  obtain ⟨otherMove, hotherMove⟩ : ∃ s : SignedAmount, s.toInt = otherPeg.toInt - oldPeg.toInt :=
    Signed.exists_toInt_eq (a := 0) (b := move) (by omega) (by omega)
  -- the product lies between zero and the target's, whichever signs gap and move share
  have nearer : 0 ≤ gap.toInt * otherMove.toInt ∧ gap.toInt * otherMove.toInt ≤ product.toInt := by
    rw [hproduct]
    rcases pos_and_pos_or_neg_and_neg_of_mul_pos target_pos with ⟨gap_pos, up⟩ | ⟨gap_neg, down⟩
    · exact ⟨Int.mul_nonneg (Int.le_of_lt gap_pos) (by omega),
        Int.mul_le_mul_of_nonneg_left (by omega) (Int.le_of_lt gap_pos)⟩
    · exact ⟨Int.mul_nonneg_of_nonpos_of_nonpos (Int.le_of_lt gap_neg) (by omega),
        Int.mul_le_mul_of_nonpos_left (Int.le_of_lt gap_neg) (by omega)⟩
  obtain ⟨otherProduct, hotherProduct⟩ :
      ∃ s : SignedAmount, s.toInt = gap.toInt * otherMove.toInt :=
    Signed.exists_toInt_eq (a := 0) (b := product) (by omega) (by omega)
  exact ⟨_, gap, hgap, otherPeg, hother, oldPeg, hold, otherMove, hotherMove, otherProduct,
    hotherProduct, rfl⟩

/-- What is closer to the target than a peg on the way there is further from the old peg. -/
theorem toward_of_closer
    (between : min curve.peg.toNat target.toNat ≤ peg.toNat ∧
      peg.toNat ≤ max curve.peg.toNat target.toNat)
    (closer : other.distance target < peg.distance target) :
    curve.Toward target other ∧ peg.distance curve.peg < other.distance curve.peg := by
  unfold Unsigned.distance at closer ⊢
  unfold Toward
  omega

/-- From a peg on the way to the target there is a next one. -/
theorem exists_closer
    (between : min curve.peg.toNat target.toNat ≤ peg.toNat ∧
      peg.toNat ≤ max curve.peg.toNat target.toNat) (short : peg ≠ target) :
    ∃ next : Amount, next.distance target < peg.distance target ∧
      (min curve.peg.toNat target.toNat ≤ next.toNat ∧
        next.toNat ≤ max curve.peg.toNat target.toNat) ∧
      next.distance curve.peg = peg.distance curve.peg + 1 := by
  have differs : peg.toNat ≠ target.toNat := fun same => short (Unsigned.ext same)
  have target_lt := target.toNat_lt
  have peg_lt := peg.toNat_lt
  unfold Unsigned.distance
  rcases Nat.lt_or_gt_of_ne differs with below | above
  · exact ⟨⟨peg.toNat + 1, by omega⟩, by simp only; omega, by simp only; omega,
      by simp only; omega⟩
  · exact ⟨⟨peg.toNat - 1, by omega⟩, by simp only; omega, by simp only; omega,
      by simp only; omega⟩

/-- A walk that does not arrive moves by the budget divided by the terminal gap. -/
theorem Walk.of_ne (h : curve.Walk budget target peg) (hpos : 0 < target.toNat)
    (short : peg ≠ target) :
    ∃ limit, curve.repegCost target = .ok limit ∧ budget.toNat < limit.toInt ∧
      0 < curve.quote.distance curve.terminalQuote ∧
      peg.distance curve.peg = budget.toNat * (Scale.reserveToQuote * Scale.peg) /
        curve.quote.distance curve.terminalQuote := by
  cases h with
  | stays same => exact absurd same.symm short
  | arrives => exact absurd rfl short
  | @stops limit gap move hlimit unaffordable hgap hne hmove =>
    have gap_eq : gap.toInt.natAbs = curve.quote.distance curve.terminalQuote := by
      rw [terminalQuoteGap_toInt hgap, Unsigned.distance]
    rw [gap_eq] at hmove
    refine ⟨limit, hlimit, unaffordable, by omega, ?_⟩
    rw [← hmove]
    -- the walk stops before the target, as it is within the budget and the target is not
    have within := curve.walkCost_div_le budget.toNat
    rw [← hmove] at within
    have far : move.toNat < target.distance curve.peg := by
      by_contra near
      have reached := curve.walkCost_mono (Nat.not_lt.1 near)
      have limit_eq := repegCost_target hlimit (by omega)
      omega
    unfold Unsigned.distance at far ⊢
    unfold stepPeg
    split <;> simp only <;> omega

theorem Walk.exists_repegCost (h : curve.Walk budget target peg) (hpos : 0 < target.toNat)
    (differs : target ≠ curve.peg) : ∃ cost, curve.repegCost peg = .ok cost := by
  cases h with
  | stays same => exact absurd same differs
  | arrives hcost => exact ⟨_, hcost⟩
  | stops hlimit unaffordable =>
    exact exists_repegCost_of_between hlimit (by omega) (stepPeg_between hpos)

/-- Every peg that is closer to `target` costs more than the budget, if it has a cost. -/
def Closest (curve : Curve) (budget target peg : Amount) : Prop :=
  ∀ (other : Amount) (cost : SignedAmount), other.distance target < peg.distance target →
    curve.repegCost other = .ok cost → budget.toNat < cost.toInt

section Short

variable (h : curve.Walk budget target peg) (hpos : 0 < target.toNat) (short : peg ≠ target)

include h hpos short

/-- A closer peg than the one a walk stops at is on the same side of the old peg, and costs at
least what one unit more does. -/
theorem Walk.le_cost_of_closer (closer : other.distance target < peg.distance target)
    (hcost : curve.repegCost other = .ok cost) :
    curve.walkCost (peg.distance curve.peg + 1) ≤ cost.toInt := by
  obtain ⟨limit, hlimit, unaffordable, -, -⟩ := h.of_ne hpos short
  obtain ⟨toward, further⟩ := toward_of_closer (h.between hpos) closer
  rw [repegCost_of_toward hlimit (by omega) toward hcost]
  exact Int.ofNat_le.2 (curve.walkCost_mono further)

/-- One unit more costs the whole budget or goes beyond it. -/
theorem Walk.le_walkCost_succ : budget.toNat ≤ curve.walkCost (peg.distance curve.peg + 1) := by
  obtain ⟨_, -, -, gap_pos, moved⟩ := h.of_ne hpos short
  rw [moved]
  exact le_walkCost_div_succ gap_pos

/-- The next peg on the way has a cost, which is what one unit more costs. -/
theorem Walk.exists_next :
    ∃ next cost, next.distance target < peg.distance target ∧ curve.repegCost next = .ok cost ∧
      cost.toInt = curve.walkCost (peg.distance curve.peg + 1) := by
  obtain ⟨limit, hlimit, unaffordable, -, -⟩ := h.of_ne hpos short
  obtain ⟨next, closer, between, one_more⟩ := exists_closer (h.between hpos) short
  obtain ⟨cost, hcost⟩ := exists_repegCost_of_between hlimit (by omega) between
  have toward := (toward_of_closer (h.between hpos) closer).1
  refine ⟨next, cost, closer, hcost, ?_⟩
  rw [repegCost_of_toward hlimit (by omega) toward hcost, one_more]

/-- A walk that stops has left no affordable peg out exactly where one more unit costs more than the
budget. -/
theorem Walk.closest_iff_of_ne :
    curve.Closest budget target peg ↔
      budget.toNat < curve.walkCost (peg.distance curve.peg + 1) := by
  constructor
  · intro closest
    obtain ⟨next, cost, closer, hcost, cost_eq⟩ := h.exists_next hpos short
    have past := closest next cost closer hcost
    omega
  · intro past other cost closer hcost
    have least := h.le_cost_of_closer hpos short closer hcost
    omega

end Short

/-- The budgeted peg is within its budget, and what is closer to the target costs at least the
budget. It is the closest peg within the budget exactly where it is the target, or where a walk of
one more unit would cost more than the budget. -/
theorem budgetedPeg_closest_iff (h : curve.budgetedPeg budget price = .ok peg) :
    ∃ target, pegForPrice curve.base curve.quote price = .ok target ∧
      (target ≠ curve.peg → ∃ cost, curve.repegCost peg = .ok cost) ∧
      (∀ cost, curve.repegCost peg = .ok cost → cost.toInt ≤ budget.toNat) ∧
      (∀ (other : Amount) (cost : SignedAmount), other.distance target < peg.distance target →
        curve.repegCost other = .ok cost → budget.toNat ≤ cost.toInt) ∧
      (curve.Closest budget target peg ↔
        peg = target ∨ budget.toNat < curve.walkCost (peg.distance curve.peg + 1)) := by
  obtain ⟨target, htarget, walk⟩ := budgetedPeg_walk h
  have target_pos := pegForPrice_pos htarget
  refine ⟨target, htarget, walk.exists_repegCost target_pos,
    fun cost hcost => walk.cost_le target_pos hcost, ?_⟩
  by_cases arrived : peg = target
  · have none_closer : ∀ other : Amount, ¬ other.distance target < peg.distance target := by
      intro other
      rw [arrived, Unsigned.distance_self]
      exact Nat.not_lt_zero _
    refine ⟨fun other _ closer => absurd closer (none_closer other), ?_⟩
    exact iff_of_true (fun other _ closer => absurd closer (none_closer other)) (.inl arrived)
  · refine ⟨fun other cost closer hcost => ?_, ?_⟩
    · have least := walk.le_cost_of_closer target_pos arrived closer hcost
      have spent := walk.le_walkCost_succ target_pos arrived
      omega
    · rw [walk.closest_iff_of_ne target_pos arrived, or_iff_right arrived]

/-- Traders are long ten units of base. One unit of the peg costs 9900 quote units and almost one
more. -/
def almostAffordable : Curve where
  base := .ofNat 10000000000000000
  quote := .ofNat 10000000000000000
  sqrtK := .ofNat 10000000000000000
  peg := .ofNat 50000
  netBase := .ofInt 100000000000000
  terminalQuote := .ofNat 9900990099009900

/-- A hundred quote units more pay for one unit of the peg, and not for a second one. -/
theorem almostAffordable_closest :
    ∃ peg target cost,
      almostAffordable.budgetedPeg (.ofNat 10000) (.ofNat 550000000000) = .ok peg ∧
      pegForPrice almostAffordable.base almostAffordable.quote (.ofNat 550000000000) = .ok target ∧
      peg.toNat = 50001 ∧ target.toNat = 55000 ∧
      almostAffordable.repegCost peg = .ok cost ∧ cost.toInt ≤ (.ofNat 10000 : Amount).toNat ∧
      almostAffordable.Closest (.ofNat 10000) target peg := by
  have walked : almostAffordable.budgetedPeg (.ofNat 10000) (.ofNat 550000000000) =
      .ok (.ofNat 50001) := by
    decide +kernel
  have aimed : pegForPrice almostAffordable.base almostAffordable.quote (.ofNat 550000000000) =
      .ok (.ofNat 55000) := by
    decide +kernel
  obtain ⟨target, htarget, priced, within, -, closest_iff⟩ := budgetedPeg_closest_iff walked
  cases aimed.symm.trans htarget
  obtain ⟨cost, hcost⟩ := priced (by decide)
  exact ⟨_, _, cost, walked, aimed, by decide, by decide, hcost, within cost hcost,
    closest_iff.2 (.inr (by decide))⟩

/-- With a budget of 9900 the walk does not start, but one unit of the peg costs no more than
that. -/
theorem not_budgetedPeg_closest :
    ¬ ∀ (curve : Curve) (budget price peg target : Amount),
      curve.budgetedPeg budget price = .ok peg →
      pegForPrice curve.base curve.quote price = .ok target → curve.Closest budget target peg := by
  intro closest
  have stays : almostAffordable.budgetedPeg (.ofNat 9900) (.ofNat 550000000000) =
      .ok (.ofNat 50000) := by
    decide +kernel
  have aimed : pegForPrice almostAffordable.base almostAffordable.quote (.ofNat 550000000000) =
      .ok (.ofNat 55000) := by
    decide +kernel
  have affordable : almostAffordable.repegCost (.ofNat 50001) = .ok (.ofInt 9900) := by
    decide +kernel
  have past := closest _ _ _ _ _ stays aimed (.ofNat 50001) _ (by decide) affordable
  exact absurd past (by decide)

end Curve

end PerpetualCurve
