import Mathlib.Algebra.Ring.Int.Defs
import PerpetualCurve.Proofs.Cost

/-!
# Moving the peg in several steps

The cost of a peg move is the gap between quote reserve and terminal reserve times the move, scaled
down to quote units toward zero. Before the rounding the costs of moves that follow each other add
up to the cost of one move from end to end. Joining two of them shifts the sum by at most one quote
unit: two remainders that add up to more than a unit have the same sign, and so has what is left of
the joined move. A path is joined one time less than it has steps.
-/

namespace PerpetualCurve

section Truncation

variable {unit : Int}

/-- A remainder is less than a unit on either side of zero, on the side of what is divided. -/
theorem tmod_bounds (a : Int) (pos : 0 < unit) :
    -unit < a.tmod unit ∧ a.tmod unit < unit ∧
      (0 ≤ a → 0 ≤ a.tmod unit) ∧ (a ≤ 0 → a.tmod unit ≤ 0) := by
  refine ⟨Int.lt_tmod_of_pos a pos, Int.tmod_lt_of_pos a pos, Int.tmod_nonneg unit, ?_⟩
  intro nonpos
  have flipped := Int.tmod_nonneg unit (Int.neg_nonneg_of_nonpos nonpos)
  rw [Int.neg_tmod] at flipped
  omega

/-- Joining two truncated quotients shifts their sum by one at most. -/
theorem tdiv_add_tdiv_sub_natAbs_le (a b : Int) (pos : 0 < unit) :
    (a.tdiv unit + b.tdiv unit - (a + b).tdiv unit).natAbs ≤ 1 := by
  have joined : unit * (a.tdiv unit + b.tdiv unit - (a + b).tdiv unit) =
      (a + b).tmod unit - a.tmod unit - b.tmod unit := by
    have ha := Int.mul_tdiv_add_tmod a unit
    have hb := Int.mul_tdiv_add_tmod b unit
    have hab := Int.mul_tdiv_add_tmod (a + b) unit
    rw [Int.mul_sub, Int.mul_add]
    omega
  -- remainders of one sign come from numbers of that sign, and their sum has it too
  have ha := tmod_bounds a pos
  have hb := tmod_bounds b pos
  have hab := tmod_bounds (a + b) pos
  have low : unit * -2 < unit * (a.tdiv unit + b.tdiv unit - (a + b).tdiv unit) := by omega
  have high : unit * (a.tdiv unit + b.tdiv unit - (a + b).tdiv unit) < unit * 2 := by omega
  have above := Int.lt_of_mul_lt_mul_left low (Int.le_of_lt pos)
  have below := Int.lt_of_mul_lt_mul_left high (Int.le_of_lt pos)
  omega

end Truncation

namespace Curve

variable {curve : Curve} {peg : Amount} {pegs : List Amount} {cost direct : SignedAmount}
  {costs : List SignedAmount}

/-- The costs of moving the peg to each of `pegs` in turn, with the reserves as they are. There are
none unless every move has a cost. -/
def pathCosts (curve : Curve) : List Amount → Outcome (List SignedAmount)
  | [] => return []
  | peg :: pegs => do
    let cost ← curve.repegCost peg
    let costs ← { curve with peg }.pathCosts pegs
    return cost :: costs

theorem pathCosts_cons_eq_ok_iff :
    curve.pathCosts (peg :: pegs) = .ok costs ↔
      ∃ cost rest, curve.repegCost peg = .ok cost ∧ { curve with peg }.pathCosts pegs = .ok rest ∧
        cost :: rest = costs := by
  simp only [pathCosts, Outcome.bind_eq_ok_iff, Outcome.pure_eq_ok_iff, exists_and_left]

/-- What the cost of moving the peg of the curve to `peg` is rounded down from. -/
def exactCost (curve : Curve) (peg : Amount) : Int :=
  (curve.quote.toNat - curve.terminalQuote.toNat) * (peg.toNat - curve.peg.toNat)

theorem repegCost_exactCost (h : curve.repegCost peg = .ok cost) :
    cost.toInt = (curve.exactCost peg).tdiv (Scale.reserveToQuote * Scale.peg : Nat) := by
  rw [repegCost_toInt h, tdiv_scales, exactCost]

theorem exactCost_trans (curve : Curve) (peg last : Amount) :
    curve.exactCost last = curve.exactCost peg + { curve with peg }.exactCost last := by
  unfold exactCost
  rw [← Int.mul_add]
  congr 1
  dsimp only
  omega

theorem exactCost_self (curve : Curve) : curve.exactCost curve.peg = 0 := by
  rw [exactCost, Int.sub_self, Int.mul_zero]

/-- A path costs what its exact cost from end to end costs, up to one quote unit for each step after
the first. -/
theorem pathCosts_sub_exactCost_natAbs_le (h : curve.pathCosts pegs = .ok costs) :
    ((costs.map Signed.toInt).sum - (curve.exactCost (pegs.getLastD curve.peg)).tdiv
      (Scale.reserveToQuote * Scale.peg : Nat)).natAbs ≤ pegs.length - 1 := by
  induction pegs generalizing curve costs with
  | nil =>
    cases h
    rw [List.getLastD_nil, exactCost_self, Int.zero_tdiv]
    exact Nat.le_refl _
  | cons peg pegs ih =>
    obtain ⟨cost, rest, hcost, hrest, rfl⟩ := pathCosts_cons_eq_ok_iff.1 h
    rw [List.getLastD_cons, List.map_cons, List.sum_cons, repegCost_exactCost hcost]
    cases pegs with
    | nil =>
      -- nothing is joined
      cases hrest
      rw [List.getLastD_nil, List.map_nil, List.sum_nil, Int.add_zero, Int.sub_self]
      exact Nat.le_refl _
    | cons next pegs =>
      have rest_near := ih hrest
      have unit_pos : (0 : Int) < (Scale.reserveToQuote * Scale.peg : Nat) := by decide
      have joined := tdiv_add_tdiv_sub_natAbs_le (curve.exactCost peg)
        ({ curve with peg }.exactCost ((next :: pegs).getLastD peg)) unit_pos
      rw [← exactCost_trans] at joined
      simp only [List.length_cons] at rest_near ⊢
      omega

/-- Moving the peg along a path costs what moving it to the end at once costs, up to one quote unit
for each step after the first. Moving it away and back costs nothing. -/
theorem pathCosts_near_direct (hcosts : curve.pathCosts pegs = .ok costs)
    (hdirect : curve.repegCost (pegs.getLastD curve.peg) = .ok direct) :
    ((costs.map Signed.toInt).sum - direct.toInt).natAbs ≤ pegs.length - 1 ∧
    ∀ peg, pegs = [peg, curve.peg] → (costs.map Signed.toInt).sum = 0 := by
  constructor
  · rw [repegCost_exactCost hdirect]
    exact pathCosts_sub_exactCost_natAbs_le hcosts
  · rintro peg rfl
    obtain ⟨there, rest, hthere, hrest, rfl⟩ := pathCosts_cons_eq_ok_iff.1 hcosts
    obtain ⟨back, none, hback, hnone, rfl⟩ := pathCosts_cons_eq_ok_iff.1 hrest
    cases hnone
    have opposite : { curve with peg }.exactCost curve.peg = -curve.exactCost peg := by
      have returned := curve.exactCost_trans peg curve.peg
      rw [exactCost_self] at returned
      omega
    simp only [List.map_cons, List.map_nil, List.sum_cons, List.sum_nil,
      repegCost_exactCost hthere, repegCost_exactCost hback, opposite, Int.neg_tdiv]
    omega

/-- A curve whose gap is worth nine tenths of a quote unit for each unit of peg. -/
def shallow : Curve where
  base := .ofNat 10000000000000
  quote := .ofNat 10000000000000
  sqrtK := .ofNat 10000000000000
  peg := .ofNat 1000
  netBase := .ofInt 9008107296
  terminalQuote := .ofNat 9991000000000

/-- Three moves of one unit are each rounded down to nothing, and one of three units costs two quote
units: the bound is met. -/
theorem shallow_pathCosts :
    shallow.pathCosts [.ofNat 1001, .ofNat 1002, .ofNat 1003] = .ok [0, 0, 0] ∧
    shallow.repegCost (.ofNat 1003) = .ok (.ofInt 2) ∧
    ((([0, 0, 0] : List SignedAmount).map Signed.toInt).sum - 2).natAbs ≤ 2 ∧
    shallow.pathCosts [.ofNat 1007, .ofNat 1000] = .ok [.ofInt 6, .ofInt (-6)] ∧
    (([.ofInt 6, .ofInt (-6)] : List SignedAmount).map Signed.toInt).sum = 0 := by
  have path : shallow.pathCosts [.ofNat 1001, .ofNat 1002, .ofNat 1003] = .ok [0, 0, 0] := by
    decide +kernel
  have direct : shallow.repegCost (.ofNat 1003) = .ok (.ofInt 2) := by decide +kernel
  have trip : shallow.pathCosts [.ofNat 1007, .ofNat 1000] = .ok [.ofInt 6, .ofInt (-6)] := by
    decide +kernel
  have staying : shallow.repegCost (.ofNat 1000) = .ok 0 := by decide +kernel
  exact ⟨path, direct, (pathCosts_near_direct path direct).1, trip,
    (pathCosts_near_direct trip staying).2 _ rfl⟩

end Curve

end PerpetualCurve
