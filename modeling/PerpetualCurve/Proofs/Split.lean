import Mathlib.Algebra.Ring.Int.Defs
import PerpetualCurve.Proofs.Swaps

/-!
# Trading in parts

An amount of quote is converted into reserve units through the peg before it moves the quote
reserve, and the conversion rounds down. A trade in parts is rounded once for each part, so the
parts together move the reserve no further than the whole amount does, and they stay behind it by at
most one reserve unit for each part after the first.

The base reserve is divided anew at every part, but of these divisions only the last one is left.
What it leaves depends on the quote reserve alone, so where the parts lag behind in quote, they lag
behind in base.
-/

namespace PerpetualCurve

/-! ## Converting in parts -/

/-- Joining two quotients that were rounded down loses nothing and gains one at most. -/
theorem ediv_add_ediv_bounds (a b : Int) {unit : Int} (pos : 0 < unit) :
    a / unit + b / unit ≤ (a + b) / unit ∧ (a + b) / unit ≤ a / unit + b / unit + 1 := by
  constructor
  · have a_below := Int.ediv_mul_le a (Int.ne_of_gt pos)
    have b_below := Int.ediv_mul_le b (Int.ne_of_gt pos)
    rw [Int.le_ediv_iff_mul_le pos, Int.add_mul]
    omega
  · have a_above := Int.lt_ediv_add_one_mul_self a pos
    have b_above := Int.lt_ediv_add_one_mul_self b pos
    rw [← Int.lt_add_one_iff, Int.ediv_lt_iff_lt_mul pos]
    simp only [Int.add_mul, Int.one_mul] at a_above b_above ⊢
    omega

/-- The reserve units that an amount of quote is converted into. -/
def reserveUnits (peg : Amount) (amount : Int) : Int :=
  amount * Scale.reservePegToQuote / peg.toNat

/-- Converted in parts, an amount gives no more reserve units, and at most one less for each part
after the first. -/
theorem sum_reserveUnits_bounds {peg : Amount} (pos : 0 < peg.toNat) (amounts : List Int) :
    (amounts.map (reserveUnits peg)).sum ≤ reserveUnits peg amounts.sum ∧
      reserveUnits peg amounts.sum ≤
        (amounts.map (reserveUnits peg)).sum + (amounts.length - 1 : Nat) := by
  induction amounts with
  | nil => simp [reserveUnits]
  | cons amount amounts ih =>
    cases amounts with
    | nil =>
      -- nothing is joined
      simp
    | cons next amounts =>
      have joined := ediv_add_ediv_bounds (amount * Scale.reservePegToQuote)
        ((next :: amounts).sum * Scale.reservePegToQuote) (Int.natCast_pos.2 pos)
      rw [← Int.add_mul] at joined
      simp only [reserveUnits, List.map_cons, List.sum_cons, List.length_cons] at ih joined ⊢
      omega

/-- The division leaves the more base the less it divides by. -/
theorem Reserves.BaseRebuilt.base_le {lower upper : Reserves} {sqrtK : Amount}
    (hupper : upper.BaseRebuilt sqrtK) (hlower : lower.BaseRebuilt sqrtK)
    (quote_le : lower.quote.toNat ≤ upper.quote.toNat) :
    upper.base.toNat ≤ lower.base.toNat := by
  rw [hupper.base_eq, hlower.base_eq]
  exact Nat.div_le_div_left quote_le hlower.quote_pos

namespace Curve

variable {curve : Curve} {flow : Flow} {part whole : SignedAmount} {parts : List SignedAmount}
  {single split : Reserves}

/-! ## Swapping in parts -/

/-- The reserves after amounts of quote are swapped in turn, each on the reserves that the one
before it left. There are none unless every swap has a result. -/
def reservesAfterParts (curve : Curve) (flow : Flow) : List SignedAmount → Outcome Reserves
  | [] => return curve.toReserves
  | part :: parts => do
    let reserves ← curve.reservesAfterSwap .quote part flow
    { curve with toReserves := reserves }.reservesAfterParts flow parts

theorem reservesAfterParts_cons_eq_ok_iff :
    curve.reservesAfterParts flow (part :: parts) = .ok split ↔
      ∃ reserves, curve.reservesAfterSwap .quote part flow = .ok reserves ∧
        { curve with toReserves := reserves }.reservesAfterParts flow parts = .ok split := by
  simp only [reservesAfterParts, Outcome.bind_eq_ok_iff]

/-- A swap of quote moves the quote reserve by the reserve units of the amount and rebuilds the base
reserve. -/
theorem reservesAfterSwap_quote_units
    (h : curve.reservesAfterSwap .quote whole flow = .ok single) :
    0 < curve.peg.toNat ∧ 0 ≤ reserveUnits curve.peg whole.toInt ∧
      (single.quote.toNat : Int) =
        curve.quote.toNat + flow.sign * reserveUnits curve.peg whole.toInt ∧
      single.BaseRebuilt curve.sqrtK := by
  obtain ⟨size, shift, move, hsize, hshift, hmove, moved, quote_ne, base_eq⟩ :=
    reservesAfterSwap_quote_eq_ok_iff.1 h
  obtain ⟨-, peg_ne, shift_eq⟩ := mulDiv_eq_ok_iff.1 hshift
  have units_eq : reserveUnits curve.peg whole.toInt = shift.toNat := by
    rw [reserveUnits, ← hsize, shift_eq, Int.natCast_ediv, Int.natCast_mul]
  rw [units_eq]
  rw [hmove] at moved
  exact ⟨Nat.pos_of_ne_zero peg_ne, Int.natCast_nonneg _, moved, Nat.pos_of_ne_zero quote_ne,
    base_eq⟩

/-- The moves of the parts add up, whatever becomes of the base reserve on the way. -/
theorem reservesAfterParts_units (h : curve.reservesAfterParts flow parts = .ok split) :
    0 ≤ ((parts.map Signed.toInt).map (reserveUnits curve.peg)).sum ∧
      (split.quote.toNat : Int) = curve.quote.toNat +
        flow.sign * ((parts.map Signed.toInt).map (reserveUnits curve.peg)).sum := by
  induction parts generalizing curve with
  | nil =>
    cases h
    simp
  | cons part parts ih =>
    obtain ⟨reserves, hswap, hrest⟩ := reservesAfterParts_cons_eq_ok_iff.1 h
    obtain ⟨-, units_nonneg, moved, -⟩ := reservesAfterSwap_quote_units hswap
    obtain ⟨rest_nonneg, rest_moved⟩ := ih hrest
    rw [List.map_cons, List.map_cons, List.sum_cons, Int.mul_add]
    simp only at rest_moved rest_nonneg
    omega

/-- The last part rebuilds the base reserve. -/
theorem reservesAfterParts_baseRebuilt (h : curve.reservesAfterParts flow parts = .ok split)
    (nonempty : parts ≠ []) : split.BaseRebuilt curve.sqrtK := by
  induction parts generalizing curve with
  | nil => exact absurd rfl nonempty
  | cons part parts ih =>
    obtain ⟨reserves, hswap, hrest⟩ := reservesAfterParts_cons_eq_ok_iff.1 h
    cases parts with
    | nil =>
      cases hrest
      exact (reservesAfterSwap_quote_units hswap).2.2.2
    | cons next parts =>
      have rebuilt := ih hrest (List.cons_ne_nil next parts)
      exact rebuilt

/-- Traded in parts, an amount of quote moves the quote reserve no further than at once, and lags
behind by at most one unit for each part after the first. The base reserve lags behind with it. -/
theorem reservesAfterParts_lag (nonempty : parts ≠ [])
    (whole_eq : whole.toInt = (parts.map Signed.toInt).sum)
    (hsplit : curve.reservesAfterParts flow parts = .ok split)
    (hsingle : curve.reservesAfterSwap .quote whole flow = .ok single) :
    (split.quote.toNat - single.quote.toNat : Int).natAbs ≤ parts.length - 1 ∧
    (flow = .add → curve.quote.toNat ≤ split.quote.toNat ∧
      split.quote.toNat ≤ single.quote.toNat ∧ single.base.toNat ≤ split.base.toNat) ∧
    (flow = .remove → single.quote.toNat ≤ split.quote.toNat ∧
      split.quote.toNat ≤ curve.quote.toNat ∧ split.base.toNat ≤ single.base.toNat) := by
  obtain ⟨peg_pos, -, single_moved, single_rebuilt⟩ := reservesAfterSwap_quote_units hsingle
  obtain ⟨units_nonneg, split_moved⟩ := reservesAfterParts_units hsplit
  have split_rebuilt := reservesAfterParts_baseRebuilt hsplit nonempty
  obtain ⟨units_le, le_units⟩ := sum_reserveUnits_bounds peg_pos (parts.map Signed.toInt)
  rw [← whole_eq] at units_le le_units
  rw [List.length_map] at le_units
  cases flow with
  | add =>
    simp only [Flow.sign] at single_moved split_moved
    have quote_le : split.quote.toNat ≤ single.quote.toNat := by omega
    refine ⟨by omega, fun _ => ⟨by omega, quote_le, ?_⟩, fun other => (by cases other)⟩
    exact single_rebuilt.base_le split_rebuilt quote_le
  | remove =>
    simp only [Flow.sign] at single_moved split_moved
    have quote_le : single.quote.toNat ≤ split.quote.toNat := by omega
    refine ⟨by omega, fun other => (by cases other), fun _ => ⟨quote_le, by omega, ?_⟩⟩
    exact split_rebuilt.base_le single_rebuilt quote_le

/-- A unit of quote is 181405 reserve units under this peg, and nine tenths of one are cut off. -/
theorem lopsided_parts_lag :
    ([.ofInt 1, .ofInt 1, .ofInt 1] : List SignedAmount) ≠ [] ∧
    (.ofInt 3 : SignedAmount).toInt =
      (([.ofInt 1, .ofInt 1, .ofInt 1] : List SignedAmount).map Signed.toInt).sum ∧
    ∃ split single,
      { lopsided with peg := .ofNat 55125 }.reservesAfterParts .add
        [.ofInt 1, .ofInt 1, .ofInt 1] = .ok split ∧
      { lopsided with peg := .ofNat 55125 }.reservesAfterSwap .quote (.ofInt 3) .add = .ok single ∧
      split.quote.toNat + 2 = single.quote.toNat ∧
      (split.quote.toNat - single.quote.toNat : Int).natAbs ≤ 2 ∧
      lopsided.quote.toNat ≤ split.quote.toNat ∧ split.quote.toNat ≤ single.quote.toNat ∧
      single.base.toNat ≤ split.base.toNat := by
  have traded : { lopsided with peg := .ofNat 55125 }.reservesAfterParts .add
      [.ofInt 1, .ofInt 1, .ofInt 1] =
        .ok { base := .ofNat 19999999997823140, quote := .ofNat 5000000000544215 } := by
    decide +kernel
  have at_once : { lopsided with peg := .ofNat 55125 }.reservesAfterSwap .quote (.ofInt 3) .add =
      .ok { base := .ofNat 19999999997823132, quote := .ofNat 5000000000544217 } := by
    decide +kernel
  have nonempty : ([.ofInt 1, .ofInt 1, .ofInt 1] : List SignedAmount) ≠ [] :=
    List.cons_ne_nil _ _
  have whole_eq : (.ofInt 3 : SignedAmount).toInt =
      (([.ofInt 1, .ofInt 1, .ofInt 1] : List SignedAmount).map Signed.toInt).sum := by
    decide
  obtain ⟨lag, added, -⟩ := reservesAfterParts_lag nonempty whole_eq traded at_once
  exact ⟨nonempty, whole_eq, _, _, traded, at_once, by decide, lag, added rfl⟩

end Curve

end PerpetualCurve
