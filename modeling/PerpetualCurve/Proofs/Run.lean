import PerpetualCurve.Engine
import PerpetualCurve.Proofs.Repeg

/-!
# Runs of a market

A run starts from a balanced curve and goes on through actions that succeed, in any number and
order, each under an engine of its own. Whatever the run, its reserves multiply to the square of
the depth up to one division: the remainders of earlier divisions do not add up, because each
division starts from the depth and not from the reserves before it.
-/

namespace PerpetualCurve

/-- The curves that runs of `allowed` actions reach. -/
inductive Reachable (allowed : Action → Prop) : Curve → Prop where
  | start {base quote peg : Amount} {curve : Curve} :
      Curve.balanced base quote peg = .ok curve → Reachable allowed curve
  | step {engine : Engine} {curve next : Curve} (action : Action) :
      Reachable allowed curve → allowed action → engine.apply curve action = .ok next →
        Reachable allowed next

variable {engine : Engine} {curve next : Curve} {action : Action} {allowed : Action → Prop}

theorem apply_onDepth (h : engine.apply curve action = .ok next)
    (hc : curve.OnDepth curve.sqrtK) : next.OnDepth next.sqrtK := by
  cases action with
  | start base quote peg => exact .inl (Curve.balanced_quoteRebuilt h)
  | setBaseSpread spread => cases h; exact hc
  | setIntensity intensity => cases h; exact hc
  | setFees exchangeFees feePool => cases h; exact hc
  | setCostBasis long short => cases h; exact hc
  | setNetBase netBase =>
    obtain ⟨terminal, -, rfl⟩ := Curve.withTerminal_eq_ok_iff.1 h
    exact hc
  | scaleDepth numerator denominator => exact .inl (Curve.withScaledDepth_quoteRebuilt h)
  | recomputeTerminal =>
    obtain ⟨terminal, -, rfl⟩ := Curve.withTerminal_eq_ok_iff.1 h
    exact hc
  | update oracle => exact Curve.updated_onDepth h hc
  | swap asset amount flow =>
    simp only [Engine.apply, Outcome.bind_eq_ok_iff, Outcome.pure_eq_ok_iff] at h
    obtain ⟨reserves, hswap, rfl⟩ := h
    have : reserves.OnDepth curve.sqrtK := Curve.reservesAfterSwap_onDepth hswap
    exact this

theorem Reachable.onDepth (h : Reachable allowed curve) : curve.OnDepth curve.sqrtK := by
  induction h with
  | start hstart => exact .inl (Curve.balanced_quoteRebuilt hstart)
  | step action _ _ happly ih => exact apply_onDepth happly ih

/-- Actions that all succeed, one after the other, make a run. -/
theorem Reachable.foldlM (engine : Engine) {start : Curve} (actions : List Action)
    (hstart : Reachable allowed start) (hallowed : ∀ action ∈ actions, allowed action)
    (h : actions.foldlM engine.apply start = .ok curve) : Reachable allowed curve := by
  induction actions generalizing start with
  | nil =>
    rw [List.foldlM_nil, Outcome.pure_eq_ok_iff] at h
    exact h ▸ hstart
  | cons action actions ih =>
    rw [List.foldlM_cons, Outcome.bind_eq_ok_iff] at h
    obtain ⟨next, hnext, hrest⟩ := h
    rw [List.forall_mem_cons] at hallowed
    exact ih (.step action hstart hallowed.1 hnext) hallowed.2 hrest

/-- Wherever a run ends, one reserve is what the depth leaves beside the other. Their product stays
short of the square of the depth by less than the larger of them. -/
theorem Reachable.sq_depth_sub_mul_lt (h : Reachable allowed curve) :
    (0 < curve.base.toNat ∧ curve.quote.toNat = curve.sqrtK.toNat ^ 2 / curve.base.toNat ∨
      0 < curve.quote.toNat ∧ curve.base.toNat = curve.sqrtK.toNat ^ 2 / curve.quote.toNat) ∧
    curve.base.toNat * curve.quote.toNat ≤ curve.sqrtK.toNat ^ 2 ∧
    curve.sqrtK.toNat ^ 2 - curve.base.toNat * curve.quote.toNat <
      max curve.base.toNat curve.quote.toNat := by
  have onDepth := h.onDepth
  have below := onDepth.mul_le
  have above := onDepth.lt_mul_add_max
  refine ⟨?_, below, by omega⟩
  rcases onDepth with rebuilt | rebuilt
  · exact .inl ⟨rebuilt.base_pos, rebuilt.quote_eq⟩
  · exact .inr ⟨rebuilt.quote_pos, rebuilt.base_eq⟩

/-- Where a run of five actions ends: among them a repeg that shrinks the depth, and last a swap of
quote, whose division leaves a remainder. -/
def afterRun : Curve where
  base := .ofNat 6646350746786
  quote := .ofNat 5515998571427
  sqrtK := .ofNat 6054854352045
  peg := .ofNat 1000
  netBase := .ofInt 3000000000000
  terminalQuote := .ofNat 8685822454306
  intensity := .ofNat 1

theorem afterRun_sq_depth_sub_mul_lt :
    Reachable (fun _ => True) afterRun ∧
    (0 < afterRun.base.toNat ∧
        afterRun.quote.toNat = afterRun.sqrtK.toNat ^ 2 / afterRun.base.toNat ∨
      0 < afterRun.quote.toNat ∧
        afterRun.base.toNat = afterRun.sqrtK.toNat ^ 2 / afterRun.quote.toNat) ∧
    afterRun.base.toNat * afterRun.quote.toNat ≤ afterRun.sqrtK.toNat ^ 2 ∧
    afterRun.sqrtK.toNat ^ 2 - afterRun.base.toNat * afterRun.quote.toNat <
      max afterRun.base.toNat afterRun.quote.toNat := by
  have started : Curve.balanced (.ofNat 20000000000000) (.ofNat 10000000000000) (.ofNat 1000) =
      .ok { base := .ofNat 20000000000000, quote := .ofNat 9999999999998,
            sqrtK := .ofNat 14142135623730, peg := .ofNat 1000,
            terminalQuote := .ofNat 9999999999998 } := by
    decide +kernel
  have run : Reachable (fun _ => True) afterRun :=
    Reachable.foldlM {}
      [.setIntensity (.ofNat 1), .setNetBase (.ofInt 3000000000000),
        .update { price := .ofInt 7000000000 }, .scaleDepth (.ofNat 3) (.ofNat 7),
        .swap .quote (.ofInt 123457) .add]
      (.start started) (fun _ _ => trivial) (by decide +kernel)
  exact ⟨run, run.sq_depth_sub_mul_lt⟩

end PerpetualCurve
