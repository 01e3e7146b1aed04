import PerpetualCurve.Curve.Swap
import PerpetualCurve.Proofs.Outcome

/-!
# Reserves on their depth

Every operation that changes a reserve divides the square of the depth by the other one and rounds
down, so one of the two reserves is always rebuilt from its partner. Which one depends on the last
operation: a swap of quote rebuilds the base reserve, all others rebuild the quote reserve.
-/

namespace PerpetualCurve

/-- The sign of the change a swap makes to its input reserve. -/
def Flow.sign : Flow → Int
  | add => 1
  | remove => -1

/-- The swap of base that closes a position changes the base reserve by the position. -/
theorem Flow.sign_closing_mul (netBase : SignedAmount) :
    (Flow.ofTrade .base (.closing netBase)).sign * (netBase.toInt.natAbs : Int) =
      netBase.toInt := by
  unfold Side.closing
  split
  case isTrue long =>
    simp only [ofTrade, sign]
    omega
  case isFalse short =>
    simp only [ofTrade, sign]
    omega

/-- A swap that has a result moves the input reserve by the whole amount, leaves some of it, and
rebuilds the output reserve. -/
theorem swapOutput_eq_ok_iff {input newInput newOutput : Amount} {amount : SignedAmount}
    {flow : Flow} {invariant : Unsigned 256} :
    swapOutput input amount flow invariant = .ok (newInput, newOutput) ↔
      0 ≤ amount.toInt ∧ (newInput.toNat : Int) = input.toNat + flow.sign * amount.toInt ∧
        newInput.toNat ≠ 0 ∧ newOutput.toNat = invariant.toNat / newInput.toNat := by
  have bound : amount.toInt < 2 ^ 127 := amount.toInt_lt
  simp only [swapOutput, Outcome.guarded_eq_ok_iff, Outcome.bind_eq_ok_iff,
    Signed.toUnsigned_eq_ok_iff]
  cases flow with
  | add =>
    simp only [Outcome.bind_eq_ok_iff, Outcome.pure_eq_ok_iff, Unsigned.checked_eq_ok_iff,
      divide_eq_ok_iff, narrow_eq_ok_iff, Prod.mk.injEq, Flow.sign]
    constructor
    · rintro ⟨-, size, hsize, _, hmoved, _, ⟨hne, rfl⟩, _, hout, rfl, rfl⟩
      exact ⟨by omega, by omega, hne, hout⟩
    · rintro ⟨hpos, hmoved, hne, hout⟩
      exact ⟨by omega, ⟨amount.toInt.toNat, by omega⟩, by simp only; omega, newInput,
        by simp only; omega, _, ⟨hne, rfl⟩, newOutput, hout, rfl, rfl⟩
  | remove =>
    simp only [Outcome.bind_eq_ok_iff, Outcome.pure_eq_ok_iff, Unsigned.difference_eq_ok_iff,
      divide_eq_ok_iff, narrow_eq_ok_iff, Prod.mk.injEq, Flow.sign]
    constructor
    · rintro ⟨-, size, hsize, _, hmoved, _, ⟨hne, rfl⟩, _, hout, rfl, rfl⟩
      exact ⟨by omega, by omega, hne, hout⟩
    · rintro ⟨hpos, hmoved, hne, hout⟩
      exact ⟨by omega, ⟨amount.toInt.toNat, by omega⟩, by simp only; omega, newInput,
        by simp only; omega, _, ⟨hne, rfl⟩, newOutput, hout, rfl, rfl⟩

namespace Reserves

/-- The quote reserve is the one the depth `sqrtK` leaves beside the base reserve. -/
structure QuoteRebuilt (reserves : Reserves) (sqrtK : Amount) : Prop where
  base_pos : 0 < reserves.base.toNat
  quote_eq : reserves.quote.toNat = sqrtK.toNat ^ 2 / reserves.base.toNat

/-- The base reserve is the one the depth `sqrtK` leaves beside the quote reserve. -/
structure BaseRebuilt (reserves : Reserves) (sqrtK : Amount) : Prop where
  quote_pos : 0 < reserves.quote.toNat
  base_eq : reserves.base.toNat = sqrtK.toNat ^ 2 / reserves.quote.toNat

/-- One of the reserves is the one the depth `sqrtK` leaves beside the other. -/
def OnDepth (reserves : Reserves) (sqrtK : Amount) : Prop :=
  reserves.QuoteRebuilt sqrtK ∨ reserves.BaseRebuilt sqrtK

variable {reserves : Reserves} {sqrtK : Amount}

theorem OnDepth.mul_le (h : reserves.OnDepth sqrtK) :
    reserves.base.toNat * reserves.quote.toNat ≤ sqrtK.toNat ^ 2 := by
  rcases h with h | h
  · rw [h.quote_eq]
    exact Nat.mul_div_le _ _
  · rw [h.base_eq]
    exact Nat.div_mul_le_self _ _

/-- One unit of quote more is past what the division cut off. -/
theorem QuoteRebuilt.lt_mul_succ (h : reserves.QuoteRebuilt sqrtK) :
    sqrtK.toNat ^ 2 < reserves.base.toNat * (reserves.quote.toNat + 1) := by
  rw [h.quote_eq]
  exact Nat.lt_mul_div_succ _ h.base_pos

/-- One unit of base more is past what the division cut off. -/
theorem BaseRebuilt.lt_mul_succ (h : reserves.BaseRebuilt sqrtK) :
    sqrtK.toNat ^ 2 < reserves.quote.toNat * (reserves.base.toNat + 1) := by
  rw [h.base_eq]
  exact Nat.lt_mul_div_succ _ h.quote_pos

/-- The division loses less than the reserve it divides by. -/
theorem OnDepth.lt_mul_add_max (h : reserves.OnDepth sqrtK) :
    sqrtK.toNat ^ 2 < reserves.base.toNat * reserves.quote.toNat +
      max reserves.base.toNat reserves.quote.toNat := by
  rcases h with h | h
  · have := h.lt_mul_succ
    rw [Nat.mul_succ] at this
    omega
  · have := h.lt_mul_succ
    rw [Nat.mul_succ, Nat.mul_comm] at this
    omega

end Reserves

namespace Curve

variable {curve next : Curve}

theorem invariant_eq (curve : Curve) :
    curve.invariant = .ok ⟨curve.sqrtK.toNat ^ 2, curve.sqrtK.sq_lt⟩ :=
  squareDepth_eq curve.sqrtK

/-- A swap of base moves the base reserve and rebuilds the quote reserve. -/
theorem reservesAfterSwap_base_eq_ok_iff {amount : SignedAmount} {flow : Flow}
    {reserves : Reserves} :
    curve.reservesAfterSwap .base amount flow = .ok reserves ↔
      0 ≤ amount.toInt ∧
        (reserves.base.toNat : Int) = curve.base.toNat + flow.sign * amount.toInt ∧
        reserves.base.toNat ≠ 0 ∧
        reserves.quote.toNat = curve.sqrtK.toNat ^ 2 / reserves.base.toNat := by
  simp only [reservesAfterSwap, Outcome.guarded_eq_ok_iff, invariant_eq, Outcome.ok_bind,
    Outcome.bind_eq_ok_iff, Outcome.pure_eq_ok_iff]
  constructor
  · rintro ⟨-, ⟨base, quote⟩, hswap, rfl⟩
    exact swapOutput_eq_ok_iff.1 hswap
  · intro h
    exact ⟨Int.not_lt.2 h.1, (reserves.base, reserves.quote), swapOutput_eq_ok_iff.2 h, rfl⟩

/-- A swap of quote converts the amount into reserve units, moves the quote reserve by them and
rebuilds the base reserve. -/
theorem reservesAfterSwap_quote_eq_ok_iff {amount : SignedAmount} {flow : Flow}
    {reserves : Reserves} :
    curve.reservesAfterSwap .quote amount flow = .ok reserves ↔
      ∃ (size shift : Amount) (move : SignedAmount), (size.toNat : Int) = amount.toInt ∧
        mulDiv size Scale.reservePegToQuote curve.peg = .ok shift ∧ move.toInt = shift.toNat ∧
        (reserves.quote.toNat : Int) = curve.quote.toNat + flow.sign * move.toInt ∧
        reserves.quote.toNat ≠ 0 ∧
        reserves.base.toNat = curve.sqrtK.toNat ^ 2 / reserves.quote.toNat := by
  simp only [reservesAfterSwap, Outcome.guarded_eq_ok_iff, invariant_eq, Outcome.ok_bind,
    Outcome.bind_eq_ok_iff, Outcome.pure_eq_ok_iff, Signed.toUnsigned_eq_ok_iff,
    Signed.checked_eq_ok_iff]
  constructor
  · rintro ⟨-, size, hsize, shift, hshift, move, hmove, ⟨quote, base⟩, hswap, rfl⟩
    obtain ⟨-, hrest⟩ := swapOutput_eq_ok_iff.1 hswap
    exact ⟨size, shift, move, hsize, hshift, hmove, hrest⟩
  · rintro ⟨size, shift, move, hsize, hshift, hmove, hrest⟩
    exact ⟨by omega, size, hsize, shift, hshift, move, hmove, (reserves.quote, reserves.base),
      swapOutput_eq_ok_iff.2 ⟨by omega, hrest⟩, rfl⟩

/-- A swap ends on the depth, wherever it starts. -/
theorem reservesAfterSwap_onDepth {asset : Asset} {amount : SignedAmount} {flow : Flow}
    {reserves : Reserves} (h : curve.reservesAfterSwap asset amount flow = .ok reserves) :
    reserves.OnDepth curve.sqrtK := by
  cases asset with
  | base =>
    obtain ⟨-, -, hbase, hquote⟩ := reservesAfterSwap_base_eq_ok_iff.1 h
    exact .inl ⟨Nat.pos_of_ne_zero hbase, hquote⟩
  | quote =>
    obtain ⟨-, -, -, -, -, -, -, hquote, hbase⟩ := reservesAfterSwap_quote_eq_ok_iff.1 h
    exact .inr ⟨Nat.pos_of_ne_zero hquote, hbase⟩

/-- Closing the position adds it to the base reserve and rebuilds the quote reserve. The smallest
position has no size that could be swapped. -/
theorem terminalReserves_eq_ok_iff {terminal : Reserves} :
    curve.terminalReserves = .ok terminal ↔
      curve.netBase.toInt ≠ -2 ^ 127 ∧
        (terminal.base.toNat : Int) = curve.base.toNat + curve.netBase.toInt ∧
        terminal.base.toNat ≠ 0 ∧
        terminal.quote.toNat = curve.sqrtK.toNat ^ 2 / terminal.base.toNat := by
  have low : -2 ^ 127 ≤ curve.netBase.toInt := curve.netBase.neg_le_toInt
  have high : curve.netBase.toInt < 2 ^ 127 := curve.netBase.toInt_lt
  simp only [terminalReserves, Outcome.bind_eq_ok_iff, Signed.checked_eq_ok_iff,
    reservesAfterSwap_base_eq_ok_iff]
  constructor
  · rintro ⟨size, hsize, -, moved, rest⟩
    have size_lt : size.toInt < 2 ^ 127 := size.toInt_lt
    rw [hsize, Flow.sign_closing_mul] at moved
    exact ⟨by omega, moved, rest⟩
  · rintro ⟨ne_least, moved, rest⟩
    obtain ⟨size, hsize⟩ : ∃ size : SignedAmount, size.toInt = curve.netBase.toInt.natAbs :=
      SignedAmount.exists_toInt (by omega) (by omega)
    refine ⟨size, hsize, by omega, ?_, rest⟩
    rw [hsize, Flow.sign_closing_mul]
    exact moved

theorem withTerminal_eq_ok_iff :
    curve.withTerminal = .ok next ↔
      ∃ terminal, curve.terminalReserves = .ok terminal ∧
        { curve with terminalQuote := terminal.quote } = next := by
  simp only [withTerminal, Outcome.bind_eq_ok_iff, Outcome.pure_eq_ok_iff]

/-- A balanced curve starts with the quote reserve rebuilt from the rounded depth. -/
theorem balanced_eq_ok_iff {base quote peg : Amount} :
    balanced base quote peg = .ok curve ↔
      ∃ sqrtK rebuilt : Amount, sqrtK.toNat = (base.toNat * quote.toNat).sqrt ∧
        base.toNat ≠ 0 ∧ rebuilt.toNat = sqrtK.toNat ^ 2 / base.toNat ∧
        { base, quote := rebuilt, sqrtK, peg, terminalQuote := rebuilt } = curve := by
  simp [balanced, Unsigned.checked_of_lt (base.mul_lt quote), squareRoot, squareDepth_eq,
    divide_eq_ok_iff, narrow_eq_ok_iff, and_assoc]

theorem balanced_quoteRebuilt {base quote peg : Amount}
    (h : balanced base quote peg = .ok curve) : curve.QuoteRebuilt curve.sqrtK := by
  obtain ⟨sqrtK, rebuilt, -, hbase, hquote, rfl⟩ := balanced_eq_ok_iff.1 h
  exact ⟨Nat.pos_of_ne_zero hbase, hquote⟩

/-- Scaling the depth scales the base reserve with it and rebuilds the quote reserve. -/
theorem withScaledDepth_eq_ok_iff {numerator denominator : Amount} :
    curve.withScaledDepth numerator denominator = .ok next ↔
      ∃ base sqrtK quote : Amount,
        mulDiv curve.base numerator denominator = .ok base ∧
        mulDiv curve.sqrtK numerator denominator = .ok sqrtK ∧
        base.toNat ≠ 0 ∧ quote.toNat = sqrtK.toNat ^ 2 / base.toNat ∧
        { curve with base, quote, sqrtK } = next := by
  simp [withScaledDepth, invariant_eq, divide_eq_ok_iff, narrow_eq_ok_iff, and_assoc]

theorem withScaledDepth_quoteRebuilt {numerator denominator : Amount}
    (h : curve.withScaledDepth numerator denominator = .ok next) :
    next.QuoteRebuilt next.sqrtK := by
  obtain ⟨base, sqrtK, quote, -, -, hbase, hquote, rfl⟩ := withScaledDepth_eq_ok_iff.1 h
  exact ⟨Nat.pos_of_ne_zero hbase, hquote⟩

end Curve

end PerpetualCurve
