import PerpetualCurve.Proofs.Depth
import PerpetualCurve.Proofs.Failure

/-!
# What a swap answers

A swap looks at the sign of its amount, at the room for the new input reserve, at whether some of it
is left to divide by, and at the room for the output reserve, in this order. The first of these that
fails decides the error. Where none fails, the two reserves multiply to no more than the invariant,
and one unit of output more would be too much.

An output depends on the new input reserve and the invariant alone. So taking out what was just put
in leads back to the first input reserve, and beside it stands the output that belongs to it,
whatever was there before.
-/

namespace PerpetualCurve

variable {input newInput grown output : Amount} {amount : SignedAmount} {flow : Flow}
  {invariant : Unsigned 256} {answer : Outcome (Amount × Amount)}

/-- The rules for the answer of a swap, of which just one applies to each swap. -/
inductive SwapAnswers (input : Amount) (amount : SignedAmount) (flow : Flow)
    (invariant : Unsigned 256) : Outcome (Amount × Amount) → Prop where
  | negative : amount.toInt < 0 →
      SwapAnswers input amount flow invariant (.error (.negativeSwapAmount amount))
  | overfull : 0 ≤ amount.toInt → flow = .add → 2 ^ 128 ≤ input.toNat + amount.toInt →
      SwapAnswers input amount flow invariant (.error (.overflow .swapAdd))
  | overdrawn : 0 ≤ amount.toInt → flow = .remove → input.toNat < amount.toInt →
      SwapAnswers input amount flow invariant (.error (.underflow .swapRemove))
  | emptied : 0 ≤ amount.toInt → input.toNat + flow.sign * amount.toInt = 0 →
      SwapAnswers input amount flow invariant (.error (.divisionByZero .swapOutput))
  | outputTooWide (newInput : Amount) : 0 ≤ amount.toInt →
      newInput.toNat = input.toNat + flow.sign * amount.toInt → newInput.toNat ≠ 0 →
      2 ^ 128 ≤ invariant.toNat / newInput.toNat →
      SwapAnswers input amount flow invariant (.error (.castFailed .unsigned256 .unsigned128))
  | swapped (newInput newOutput : Amount) : 0 ≤ amount.toInt →
      newInput.toNat = input.toNat + flow.sign * amount.toInt →
      newInput.toNat * newOutput.toNat ≤ invariant.toNat →
      invariant.toNat < newInput.toNat * (newOutput.toNat + 1) →
      SwapAnswers input amount flow invariant (.ok (newInput, newOutput))

/-! ## The steps of a swap -/

theorem swapOutput_of_overfull (nonneg : 0 ≤ amount.toInt)
    (overfull : 2 ^ 128 ≤ input.toNat + amount.toInt) :
    swapOutput input amount .add invariant = .error (.overflow .swapAdd) := by
  obtain ⟨size, hsize, size_eq⟩ := Signed.exists_toUnsigned nonneg
  have wide : 2 ^ 128 ≤ input.toNat + size.toNat := by omega
  simp [swapOutput, Int.not_lt.2 nonneg, hsize, wide]

theorem swapOutput_of_overdrawn (nonneg : 0 ≤ amount.toInt)
    (overdrawn : input.toNat < amount.toInt) :
    swapOutput input amount .remove invariant = .error (.underflow .swapRemove) := by
  obtain ⟨size, hsize, size_eq⟩ := Signed.exists_toUnsigned nonneg
  have short : input.toNat < size.toNat := by omega
  simp [swapOutput, Int.not_lt.2 nonneg, hsize, short]

/-- Where the new input reserve is an amount, what is left is to rebuild the output from it. -/
theorem swapOutput_of_moved (nonneg : 0 ≤ amount.toInt)
    (moved : newInput.toNat = input.toNat + flow.sign * amount.toInt) :
    swapOutput input amount flow invariant = (do
      let newOutput ← divide invariant.toNat newInput.toNat (.divisionByZero .swapOutput)
      return (newInput, ← narrow .unsigned256 newOutput)) := by
  obtain ⟨size, hsize, size_eq⟩ := Signed.exists_toUnsigned nonneg
  cases flow with
  | add =>
    have hmoved (e : PricingError) : Unsigned.checked (input.toNat + size.toNat) e = .ok newInput :=
      Unsigned.checked_eq_ok_iff.2 (by simp only [Flow.sign] at moved; omega)
    simp [swapOutput, Int.not_lt.2 nonneg, hsize, hmoved]
  | remove =>
    have hmoved (e : PricingError) : input.difference size e = .ok newInput :=
      Unsigned.difference_eq_ok_iff.2 (by simp only [Flow.sign] at moved; omega)
    simp [swapOutput, Int.not_lt.2 nonneg, hsize, hmoved]

/-! ## The rules decide the answer -/

/-- What a rule says is what the swap answers. -/
theorem SwapAnswers.swapOutput_eq (h : SwapAnswers input amount flow invariant answer) :
    swapOutput input amount flow invariant = answer := by
  cases h with
  | negative negative => simp [swapOutput, negative]
  | overfull nonneg hflow overfull => exact hflow ▸ swapOutput_of_overfull nonneg overfull
  | overdrawn nonneg hflow overdrawn => exact hflow ▸ swapOutput_of_overdrawn nonneg overdrawn
  | emptied nonneg emptied =>
    have moved : (0 : Amount).toNat = input.toNat + flow.sign * amount.toInt := emptied.symm
    simp [swapOutput_of_moved nonneg moved]
  | outputTooWide newInput nonneg moved divides wide =>
    simp [swapOutput_of_moved nonneg moved, divide, divides, wide]
  | swapped newInput newOutput nonneg moved le_invariant invariant_lt =>
    have divides : newInput.toNat ≠ 0 := by
      intro zero
      rw [zero, Nat.zero_mul] at invariant_lt
      omega
    rw [Nat.mul_comm] at le_invariant invariant_lt
    exact swapOutput_eq_ok_iff.2
      ⟨nonneg, moved, divides, (Nat.div_eq_of_lt_le le_invariant invariant_lt).symm⟩

/-- A flow leads the input reserve past the end of its range, or to another amount. -/
theorem Flow.moves_cases (input : Amount) (amount : SignedAmount) (flow : Flow)
    (nonneg : 0 ≤ amount.toInt) :
    flow = .add ∧ 2 ^ 128 ≤ input.toNat + amount.toInt ∨
      flow = .remove ∧ input.toNat < amount.toInt ∨
      ∃ newInput : Amount, newInput.toNat = input.toNat + flow.sign * amount.toInt := by
  have input_lt := input.toNat_lt
  cases flow with
  | add =>
    by_cases fits : input.toNat + amount.toInt < 2 ^ 128
    · simp only [sign, Int.one_mul]
      exact .inr (.inr (Amount.exists_toNat (by omega) fits))
    · exact .inl ⟨rfl, Int.not_lt.1 fits⟩
  | remove =>
    by_cases covered : amount.toInt ≤ input.toNat
    · simp only [sign]
      exact .inr (.inr (Amount.exists_toNat (by omega) (by omega)))
    · exact .inr (.inl ⟨rfl, Int.not_le.1 covered⟩)

/-- Some rule applies to every swap. -/
theorem exists_swapAnswers (input : Amount) (amount : SignedAmount) (flow : Flow)
    (invariant : Unsigned 256) : ∃ answer, SwapAnswers input amount flow invariant answer := by
  by_cases negative : amount.toInt < 0
  · exact ⟨_, .negative negative⟩
  have nonneg := Int.not_lt.1 negative
  obtain ⟨hflow, overfull⟩ | ⟨hflow, overdrawn⟩ | ⟨newInput, moved⟩ :=
    Flow.moves_cases input amount flow nonneg
  · exact ⟨_, .overfull nonneg hflow overfull⟩
  · exact ⟨_, .overdrawn nonneg hflow overdrawn⟩
  by_cases empty : newInput.toNat = 0
  · exact ⟨_, .emptied nonneg (by omega)⟩
  by_cases fits : invariant.toNat / newInput.toNat < 2 ^ 128
  · exact ⟨_, .swapped newInput ⟨_, fits⟩ nonneg moved (Nat.mul_div_le _ _)
      (Nat.lt_mul_div_succ _ (Nat.pos_of_ne_zero empty))⟩
  · exact ⟨_, .outputTooWide newInput nonneg moved empty (Nat.not_lt.1 fits)⟩

theorem swapOutput_eq_iff :
    swapOutput input amount flow invariant = answer ↔
      SwapAnswers input amount flow invariant answer := by
  constructor
  · -- whichever rule applies, what it says is the answer
    rintro rfl
    obtain ⟨answer, h⟩ := exists_swapAnswers input amount flow invariant
    rw [h.swapOutput_eq]
    exact h
  · exact SwapAnswers.swapOutput_eq

/-! ## Taking a swap back -/

/-- What was put into a reserve can be taken out of it, and leaves the output that belongs to the
first input reserve, which is no less than the output in between. -/
theorem swapOutput_add_remove (pos : 0 < input.toNat)
    (h : swapOutput input amount .add invariant = .ok (grown, output))
    (fits : invariant.toNat / input.toNat < 2 ^ 128) :
    swapOutput grown amount .remove invariant = .ok (input, ⟨_, fits⟩) ∧
      output.toNat ≤ invariant.toNat / input.toNat := by
  obtain ⟨nonneg, moved, -, output_eq⟩ := swapOutput_eq_ok_iff.1 h
  simp only [Flow.sign] at moved
  constructor
  · refine swapOutput_eq_ok_iff.2 ⟨nonneg, ?_, Nat.ne_of_gt pos, rfl⟩
    simp only [Flow.sign]
    omega
  · rw [output_eq]
    exact Nat.div_le_div_left (by omega) pos

/-- A swap answers by its rules, whatever its input. Adding an amount and removing it again restores
the input reserve, if that is not empty and its output is an amount. -/
theorem swapOutput_follows_rules (input : Amount) (amount : SignedAmount)
    (invariant : Unsigned 256) :
    (∀ (flow : Flow) (answer : Outcome (Amount × Amount)),
      swapOutput input amount flow invariant = answer ↔
        SwapAnswers input amount flow invariant answer) ∧
    ∀ grown output : Amount, 0 < input.toNat →
      swapOutput input amount .add invariant = .ok (grown, output) →
      invariant.toNat / input.toNat < 2 ^ 128 →
      ∃ restored : Amount, restored.toNat = invariant.toNat / input.toNat ∧
        swapOutput grown amount .remove invariant = .ok (input, restored) ∧
        output.toNat ≤ restored.toNat := by
  constructor
  · exact fun _ _ => swapOutput_eq_iff
  · intro grown output pos h fits
    exact ⟨⟨_, fits⟩, rfl, swapOutput_add_remove pos h fits⟩

/-- An input reserve of half the range that is filled up to its end: the output in between is half
the range, and the restored output the whole of it. One unit more of input has no room. -/
theorem filled_follows_rules :
    ∃ restored : Amount,
      SwapAnswers (.ofNat (2 ^ 127)) (.ofInt (2 ^ 127 - 1)) .add (.ofNat (2 ^ 255 - 1))
        (.ok (.ofNat (2 ^ 128 - 1), .ofNat (2 ^ 127))) ∧
      restored.toNat = 2 ^ 128 - 1 ∧
      swapOutput (.ofNat (2 ^ 128 - 1)) (.ofInt (2 ^ 127 - 1)) .remove (.ofNat (2 ^ 255 - 1)) =
        .ok (.ofNat (2 ^ 127), restored) ∧
      2 ^ 127 ≤ restored.toNat ∧
      swapOutput (.ofNat (2 ^ 127 + 1)) (.ofInt (2 ^ 127 - 1)) .add (.ofNat (2 ^ 255 - 1)) =
        .error (.overflow .swapAdd) := by
  have filled : swapOutput (.ofNat (2 ^ 127)) (.ofInt (2 ^ 127 - 1)) .add (.ofNat (2 ^ 255 - 1)) =
      .ok (.ofNat (2 ^ 128 - 1), .ofNat (2 ^ 127)) := by
    decide +kernel
  obtain ⟨rules, undo⟩ :=
    swapOutput_follows_rules (.ofNat (2 ^ 127)) (.ofInt (2 ^ 127 - 1)) (.ofNat (2 ^ 255 - 1))
  obtain ⟨restored, restored_eq, removed, le_restored⟩ :=
    undo _ _ (by decide +kernel) filled (by decide +kernel)
  obtain ⟨overfull, -⟩ :=
    swapOutput_follows_rules (.ofNat (2 ^ 127 + 1)) (.ofInt (2 ^ 127 - 1)) (.ofNat (2 ^ 255 - 1))
  refine ⟨restored, (rules _ _).1 filled, ?_, removed, ?_, ?_⟩
  · rw [restored_eq]
    decide +kernel
  · exact le_restored
  · exact (overfull _ _).2 (.overfull (by decide +kernel) rfl (by decide +kernel))

end PerpetualCurve
