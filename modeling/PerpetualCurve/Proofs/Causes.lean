import PerpetualCurve.Proofs.Failure
import PerpetualCurve.Peg.Repeg

/-!
# What a calculation can fail for

A chain of steps fails only for what one of its steps can fail for, so the causes of a calculation
are read off its steps, one constructor of the chain at a time. Most of the curve's calculations
have arithmetic causes only: a result that is too wide, a divisor that is zero, a value that does
not fit where it is cast to.

Some steps of a calculation have no check of their own, and leaving their range would be the cause
`escaped`. That such a step stays in its range is shown where it stands, from the guards and the
widths of the steps before it.
-/

namespace PerpetualCurve

/-- The causes an arithmetic step reports. -/
@[simp] def PricingError.IsArithmetic : PricingError → Prop
  | overflow _ | underflow _ | divisionByZero _ | castFailed _ _ => True
  | _ => False

namespace Outcome

variable {α β : Type} {causes causes' : PricingError → Prop} {e : PricingError}

/-- Whatever the calculation fails for is one of `causes`. -/
def FailsFor (causes : PricingError → Prop) (x : Outcome α) : Prop :=
  ∀ e, x = .error e → causes e

theorem FailsFor.mono {x : Outcome α} (h : x.FailsFor causes)
    (weaker : ∀ e, causes e → causes' e) : x.FailsFor causes' :=
  fun e he => weaker e (h e he)

theorem FailsFor.ne_error {x : Outcome α} (h : x.FailsFor causes) (he : ¬ causes e) :
    x ≠ .error e :=
  fun hx => he (h e hx)

@[simp] theorem failsFor_ok {a : α} : FailsFor causes (.ok a : Outcome α) := by simp [FailsFor]

@[simp] theorem failsFor_pure {a : α} : FailsFor causes (pure a : Outcome α) := by simp [FailsFor]

@[simp] theorem failsFor_error_iff : FailsFor causes (.error e : Outcome α) ↔ causes e :=
  ⟨fun h => h e rfl, fun h _ he => Except.error.inj he ▸ h⟩

@[simp] theorem failsFor_throw_iff : FailsFor causes (throw e : Outcome α) ↔ causes e :=
  failsFor_error_iff

/-- A chain fails for what its first step fails for, or the rest where the first step succeeds. -/
@[simp] theorem failsFor_bind_iff {x : Outcome α} {f : α → Outcome β} :
    FailsFor causes (x >>= f) ↔
      FailsFor causes x ∧ ∀ a, x = .ok a → FailsFor causes (f a) := by
  cases x with
  | error e => simp [bind, Except.bind]
  | ok a => simp [bind, Except.bind]

@[simp] theorem failsFor_map_iff {f : α → β} {x : Outcome α} :
    FailsFor causes (f <$> x) ↔ FailsFor causes x := by
  simp [FailsFor]

@[simp] theorem failsFor_ite_iff {p : Prop} [Decidable p] {x y : Outcome α} :
    FailsFor causes (if p then x else y) ↔
      (p → FailsFor causes x) ∧ (¬ p → FailsFor causes y) := by
  by_cases hp : p <;> simp [hp]

@[simp] theorem failsFor_getDM_iff {o : Option α} :
    FailsFor causes (o.getDM (.error e : Outcome α)) ↔ (o = none → causes e) := by
  cases o with
  | none => simp [Option.getDM]
  | some a => simp [Option.getDM]

section Steps

variable {bits : Nat}

@[simp] theorem failsFor_unsigned_checked_iff {n : Nat} :
    FailsFor causes (Unsigned.checked n e : Outcome (Unsigned bits)) ↔
      (2 ^ bits ≤ n → causes e) := by
  simp [FailsFor]

@[simp] theorem failsFor_difference_iff {a b : Unsigned bits} :
    FailsFor causes (a.difference b e) ↔ (a.toNat < b.toNat → causes e) := by
  simp [FailsFor]

@[simp] theorem failsFor_signed_checked_iff {i : Int} :
    FailsFor causes (Signed.checked i e : Outcome (Signed bits)) ↔
      (¬ (-2 ^ (bits - 1) ≤ i ∧ i < 2 ^ (bits - 1)) → causes e) := by
  simp [FailsFor]

@[simp] theorem failsFor_divide_iff {a b : Nat} :
    FailsFor causes (divide a b e) ↔ (b = 0 → causes e) := by
  simp [FailsFor]

@[simp] theorem failsFor_narrow (wide : Representation) (n : Nat) :
    FailsFor PricingError.IsArithmetic (narrow wide n) := by
  simp [narrow]

@[simp] theorem failsFor_toSigned (a : Amount) :
    FailsFor PricingError.IsArithmetic a.toSigned := by
  simp [Unsigned.toSigned]

@[simp] theorem failsFor_toUnsigned (s : SignedAmount) :
    FailsFor PricingError.IsArithmetic s.toUnsigned := by
  simp [Signed.toUnsigned]

@[simp] theorem failsFor_mulDiv (a b c : Nat) :
    FailsFor PricingError.IsArithmetic (mulDiv a b c) := by
  simp [mulDiv]

@[simp] theorem failsFor_squareDepth (root : Amount) :
    FailsFor PricingError.IsArithmetic (squareDepth root) := by
  simp [squareDepth]

end Steps

end Outcome

open Outcome (FailsFor)

/-! ## Prices and reserves -/

/-- The base reserve in the divisor of a price is scaled by a constant, which 192 digits have room
for. -/
theorem priceOf_arithmetic {base quote peg : Amount} :
    FailsFor PricingError.IsArithmetic (priceOf base quote peg) := by
  have divisor_lt : Scale.peg * base.toNat < 2 ^ 192 := by
    have := base.toNat_lt
    unfold Scale.peg
    omega
  simp [priceOf, Nat.not_le.2 divisor_lt]

theorem oracleMarkSpread_arithmetic {mark : Amount} {price : SignedAmount} :
    FailsFor PricingError.IsArithmetic (oracleMarkSpread mark price) := by
  simp [oracleMarkSpread]

theorem pegForPrice_arithmetic {base quote price : Amount} :
    FailsFor PricingError.IsArithmetic (pegForPrice base quote price) := by
  simp [pegForPrice]

theorem swapOutput_arithmetic {input : Amount} {amount : SignedAmount} {flow : Flow}
    {invariant : Unsigned 256} (nonneg : 0 ≤ amount.toInt) :
    FailsFor PricingError.IsArithmetic (swapOutput input amount flow invariant) := by
  cases flow <;> simp [swapOutput, Int.not_lt.2 nonneg]

namespace Curve

variable {curve : Curve} {numerator denominator : Amount}

/-- What comes out of a check of a natural number is not negative. -/
theorem nonneg_of_checked {n : Nat} {e : PricingError} {s : SignedAmount}
    (h : Signed.checked n e = .ok s) : 0 ≤ s.toInt := by
  rw [Signed.checked_eq_ok_iff] at h
  omega

theorem reservesAfterSwap_arithmetic {asset : Asset} {amount : SignedAmount} {flow : Flow}
    (nonneg : 0 ≤ amount.toInt) :
    FailsFor PricingError.IsArithmetic (curve.reservesAfterSwap asset amount flow) := by
  cases asset with
  | base => simp [reservesAfterSwap, invariant, swapOutput_arithmetic, nonneg]
  | quote =>
    simp only [reservesAfterSwap, invariant, Int.not_lt.2 nonneg, if_false,
      Outcome.failsFor_bind_iff, Outcome.failsFor_squareDepth, Outcome.failsFor_toUnsigned,
      Outcome.failsFor_mulDiv, Outcome.failsFor_signed_checked_iff, PricingError.IsArithmetic,
      Outcome.failsFor_pure, implies_true, and_true, true_and]
    intro _ _ _ _ _ _ move hmove
    exact swapOutput_arithmetic (nonneg_of_checked hmove)

/-- The amount that closes a position has no sign. -/
theorem withTerminal_arithmetic : FailsFor PricingError.IsArithmetic curve.withTerminal := by
  simp only [withTerminal, terminalReserves, Outcome.failsFor_bind_iff,
    Outcome.failsFor_signed_checked_iff, PricingError.IsArithmetic, Outcome.failsFor_pure,
    implies_true, and_true, true_and]
  intro amount hamount
  exact reservesAfterSwap_arithmetic (nonneg_of_checked hamount)

theorem withScaledDepth_arithmetic :
    FailsFor PricingError.IsArithmetic (curve.withScaledDepth numerator denominator) := by
  simp [withScaledDepth, invariant]

/-! ## Moving the peg -/

theorem repegCost_arithmetic {peg : Amount} :
    FailsFor PricingError.IsArithmetic (curve.repegCost peg) := by
  simp [repegCost, terminalQuoteGap]

theorem repegBudget_arithmetic : FailsFor PricingError.IsArithmetic curve.repegBudget := by
  simp [repegBudget]

theorem budgetedPeg_arithmetic {budget price : Amount} :
    FailsFor PricingError.IsArithmetic (curve.budgetedPeg budget price) := by
  simp [budgetedPeg, pegForPrice_arithmetic, repegCost_arithmetic, terminalQuoteGap]

theorem closedBase_arithmetic {base net : SignedAmount} {operation : Operation} :
    FailsFor PricingError.IsArithmetic (closedBase base net operation) := by
  simp [closedBase]

theorem closedBase_eq_ok_iff {base net closed : SignedAmount} {operation : Operation} :
    closedBase base net operation = .ok closed ↔
      closed.toInt = base.toInt + net.toInt ∧ 0 < closed.toInt := by
  simp only [closedBase, Outcome.bind_eq_ok_iff, Signed.checked_eq_ok_iff,
    Outcome.guarded_eq_ok_iff, Outcome.pure_eq_ok_iff]
  constructor
  · rintro ⟨_, hsum, pos, rfl⟩
    exact ⟨hsum, by omega⟩
  · rintro ⟨hsum, pos⟩
    exact ⟨closed, hsum, by omega, rfl⟩

/-- The difference of two amounts does not reach the lower end of the signed range, so that it has
room for any sign. -/
theorem change_mul_sign_bounds {before after : Amount} {low high change : SignedAmount}
    (hbefore : before.toSigned = .ok high) (hafter : after.toSigned = .ok low)
    (hchange : change.toInt = high.toInt - low.toInt) (i : Int) :
    -2 ^ 127 < change.toInt * i.sign ∧ change.toInt * i.sign < 2 ^ 127 := by
  rw [Unsigned.toSigned_eq_ok_iff] at hbefore hafter
  have high_lt : high.toInt < 2 ^ 127 := high.toInt_lt
  have low_lt : low.toInt < 2 ^ 127 := low.toInt_lt
  rcases Int.lt_trichotomy i 0 with negative | zero | positive
  · rw [Int.sign_eq_neg_one_of_neg negative]
    omega
  · rw [zero, Int.sign_zero]
    omega
  · rw [Int.sign_eq_one_of_pos positive]
    omega

/-- Three steps of the cost have no check of their own. The divisor is a base reserve that closing
left above zero, and the change of the payout lies between two amounts, so it can be multiplied by
a sign and negated. -/
theorem depthCost_arithmetic :
    FailsFor PricingError.IsArithmetic (curve.depthCost numerator denominator) := by
  simp only [depthCost, Outcome.failsFor_ite_iff, Outcome.failsFor_bind_iff, Outcome.failsFor_pure,
    Outcome.failsFor_mulDiv, Outcome.failsFor_toSigned, closedBase_arithmetic,
    Outcome.failsFor_unsigned_checked_iff, Outcome.failsFor_divide_iff, Outcome.failsFor_narrow,
    Outcome.failsFor_signed_checked_iff, PricingError.IsArithmetic, Signed.toNat_magnitude,
    Signed.checked_eq_ok_iff, implies_true, and_true, true_and]
  intro held factor _ base _ scaledReserve _ scaledBase _ closed _ scaledClosed hscaledClosed
    product _ total _ _ _ before _ scaled _
  obtain ⟨-, scaledClosed_pos⟩ := closedBase_eq_ok_iff.1 hscaledClosed
  refine ⟨by omega, ?_⟩
  intro _ _ after _ signedBefore hbefore signedAfter hafter change hchange
  obtain ⟨above, below⟩ := change_mul_sign_bounds hbefore hafter hchange curve.netBase.toInt
  refine ⟨fun out => out ⟨Int.le_of_lt above, below⟩, fun signed hsigned out => out ?_⟩
  rw [hsigned]
  exact ⟨by omega, by omega⟩

end Curve

end PerpetualCurve
