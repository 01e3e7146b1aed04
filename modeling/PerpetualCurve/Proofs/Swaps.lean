import PerpetualCurve.Proofs.Run

/-!
# What swaps can take from the pool

A swap moves one reserve by the traded amount and rounds the other one down, whichever way the trade
goes, so the remainder of the division is the trader's: a unit of base can leave the pool without a
unit of quote coming in. A run of swaps can therefore end with less of one reserve and no more of
the other.

Such losses do not add up. The depth stays, and every swap divides its square anew, so a run that
ends with no more of either reserve has kept one of them to the unit. What is gone from the other is
worth less than one unit of the one that was kept, however long the run is.
-/

namespace PerpetualCurve

/-- An action that swaps an amount of either asset. -/
def Action.IsSwap (action : Action) : Prop := ∃ asset amount flow, action = .swap asset amount flow

/-- `later` holds no more of either reserve than `earlier`, and less of one of them. -/
structure Reserves.Poorer (later earlier : Reserves) : Prop where
  base_le : later.base.toNat ≤ earlier.base.toNat
  quote_le : later.quote.toNat ≤ earlier.quote.toNat
  less : later.base.toNat < earlier.base.toNat ∨ later.quote.toNat < earlier.quote.toNat

/-- Reserves `x` and `y` multiply to at most `k`, and a later pair holds no more of either. If `y'`
is the rebuilt one of the later pair, it is `y` still, and the gap from `x` to `x'` times `y` stays
within the remainder of the division. -/
theorem loss_of_rebuilt {k x y x' y' : Nat} (below : x * y ≤ k) (pos : 0 < x')
    (rebuilt : y' = k / x') (x_le : x' ≤ x) (y_le : y' ≤ y) :
    y' = y ∧ (x - x') * y < x' ∧ k < x' * (y + 1) := by
  have y_ge : y ≤ y' := by
    rw [rebuilt, Nat.le_div_iff_mul_le pos]
    calc y * x'
        ≤ y * x := Nat.mul_le_mul_left _ x_le
      _ = x * y := Nat.mul_comm _ _
      _ ≤ k := below
  have kept : y' = y := Nat.le_antisymm y_le y_ge
  have short : k < x' * (y + 1) := by
    rw [← kept, rebuilt]
    exact Nat.lt_mul_div_succ _ pos
  refine ⟨kept, ?_, short⟩
  rw [Nat.mul_succ] at short
  rw [Nat.sub_mul]
  omega

namespace Reserves

variable {earlier later : Reserves} {sqrtK : Amount}

/-- A poorer pair on the depth keeps one reserve, takes from the other less than one unit of the
kept one is worth, and needs an earlier pair from which one unit less of it goes unnoticed. -/
theorem Poorer.loss_lt (poorer : later.Poorer earlier) (onDepth : later.OnDepth sqrtK)
    (below : earlier.base.toNat * earlier.quote.toNat ≤ sqrtK.toNat ^ 2) :
    later.quote = earlier.quote ∧
        (earlier.base.toNat - later.base.toNat) * earlier.quote.toNat < later.base.toNat ∧
        sqrtK.toNat ^ 2 < (earlier.base.toNat - 1) * (earlier.quote.toNat + 1) ∨
      later.base = earlier.base ∧
        (earlier.quote.toNat - later.quote.toNat) * earlier.base.toNat < later.quote.toNat ∧
        sqrtK.toNat ^ 2 < (earlier.quote.toNat - 1) * (earlier.base.toNat + 1) := by
  obtain ⟨base_le, quote_le, less⟩ := poorer
  rcases onDepth with rebuilt | rebuilt
  · obtain ⟨kept, loss, short⟩ :=
      loss_of_rebuilt below rebuilt.base_pos rebuilt.quote_eq base_le quote_le
    have base_le_pred : later.base.toNat ≤ earlier.base.toNat - 1 := by omega
    exact .inl ⟨Unsigned.ext kept, loss,
      Nat.lt_of_lt_of_le short (Nat.mul_le_mul_right _ base_le_pred)⟩
  · rw [Nat.mul_comm] at below
    obtain ⟨kept, loss, short⟩ :=
      loss_of_rebuilt below rebuilt.quote_pos rebuilt.base_eq quote_le base_le
    have quote_le_pred : later.quote.toNat ≤ earlier.quote.toNat - 1 := by omega
    exact .inr ⟨Unsigned.ext kept, loss,
      Nat.lt_of_lt_of_le short (Nat.mul_le_mul_right _ quote_le_pred)⟩

end Reserves

variable {engine : Engine} {curve next : Curve} {action : Action} {actions : List Action}

theorem apply_swap_sqrtK (swap : action.IsSwap) (h : engine.apply curve action = .ok next) :
    next.sqrtK = curve.sqrtK := by
  obtain ⟨asset, amount, flow, rfl⟩ := swap
  simp only [Engine.apply, Outcome.bind_eq_ok_iff, Outcome.pure_eq_ok_iff] at h
  obtain ⟨reserves, -, rfl⟩ := h
  rfl

/-- A run of swaps keeps the depth and stays on it. -/
theorem swaps_onDepth (swaps : ∀ action ∈ actions, action.IsSwap)
    (run : actions.foldlM engine.apply curve = .ok next) (h : curve.OnDepth curve.sqrtK) :
    next.OnDepth curve.sqrtK := by
  induction actions generalizing curve with
  | nil =>
    rw [List.foldlM_nil, Outcome.pure_eq_ok_iff] at run
    exact run ▸ h
  | cons action actions ih =>
    rw [List.foldlM_cons, Outcome.bind_eq_ok_iff] at run
    obtain ⟨swapped, hswapped, rest⟩ := run
    rw [List.forall_mem_cons] at swaps
    rw [← apply_swap_sqrtK swaps.1 hswapped]
    exact ih swaps.2 rest (apply_onDepth hswapped h)

namespace Curve

/-- Where the quote reserve has room for it, one unit of base is free. -/
theorem reservesAfterSwap_unit_poorer (h : curve.OnDepth curve.sqrtK)
    (room : curve.sqrtK.toNat ^ 2 < (curve.base.toNat - 1) * (curve.quote.toNat + 1)) :
    ∃ reserves, curve.reservesAfterSwap .base (.ofInt 1) .remove = .ok reserves ∧
      reserves.Poorer curve.toReserves := by
  have pos : 0 < curve.base.toNat - 1 := by
    apply Nat.pos_of_ne_zero
    intro zero
    rw [zero, Nat.zero_mul] at room
    exact Nat.not_lt_zero _ room
  have quote_eq : curve.sqrtK.toNat ^ 2 / (curve.base.toNat - 1) = curve.quote.toNat := by
    rw [Nat.div_eq_iff pos]
    have below := h.mul_le
    have fewer : (curve.base.toNat - 1) * curve.quote.toNat ≤
        curve.base.toNat * curve.quote.toNat := Nat.mul_le_mul_right _ (Nat.sub_le _ _)
    rw [Nat.mul_succ] at room
    rw [Nat.mul_comm (curve.quote.toNat)]
    omega
  have base_lt : curve.base.toNat - 1 < 2 ^ 128 :=
    Nat.lt_of_le_of_lt (Nat.sub_le _ _) curve.base.toNat_lt
  have unit : (.ofInt 1 : SignedAmount).toInt = 1 := by decide
  refine ⟨⟨⟨curve.base.toNat - 1, base_lt⟩, curve.quote⟩,
    reservesAfterSwap_base_eq_ok_iff.2 ⟨by decide, ?_, Nat.ne_of_gt pos, quote_eq.symm⟩, ?_⟩
  · rw [unit]
    simp only [Flow.sign]
    omega
  · exact ⟨Nat.sub_le _ _, Nat.le_refl _, .inl (by simp only; omega)⟩

/-- Swaps can leave the pool with less of one reserve and no more of the other, and how much less is
bounded once for runs of any length: what is gone is worth less than one unit of the reserve that
was kept. No run does so unless the reserves lie so far apart that one unit less of the larger one
leaves the smaller one as it is, and if that is the base reserve, a swap of one unit does. -/
theorem swaps_loss_lt_unit (h : curve.OnDepth curve.sqrtK) :
    (∀ (engine : Engine) (actions : List Action) (next : Curve),
      (∀ action ∈ actions, action.IsSwap) → actions.foldlM engine.apply curve = .ok next →
      next.Poorer curve.toReserves →
        next.quote = curve.quote ∧
            (curve.base.toNat - next.base.toNat) * curve.quote.toNat < next.base.toNat ∧
            curve.sqrtK.toNat ^ 2 < (curve.base.toNat - 1) * (curve.quote.toNat + 1) ∨
          next.base = curve.base ∧
            (curve.quote.toNat - next.quote.toNat) * curve.base.toNat < next.quote.toNat ∧
            curve.sqrtK.toNat ^ 2 < (curve.quote.toNat - 1) * (curve.base.toNat + 1)) ∧
    (curve.sqrtK.toNat ^ 2 < (curve.base.toNat - 1) * (curve.quote.toNat + 1) →
      ∃ reserves, curve.reservesAfterSwap .base (.ofInt 1) .remove = .ok reserves ∧
        reserves.Poorer curve.toReserves) := by
  constructor
  · intro engine actions next swaps run poorer
    exact poorer.loss_lt (swaps_onDepth swaps run h) h.mul_le
  · intro room
    exact reservesAfterSwap_unit_poorer h room

/-- A curve with four times as much base as quote: four units of base are worth one of quote. -/
def lopsided : Curve where
  base := .ofNat 20000000000000000
  quote := .ofNat 5000000000000000
  sqrtK := .ofNat 10000000000000000
  peg := .ofNat 50000

theorem lopsided_quoteRebuilt : lopsided.QuoteRebuilt lopsided.sqrtK := by
  constructor <;> decide

/-- A trader buys base for one quote unit and sells all of it but three units back for as much. -/
theorem lopsided_loss_lt_unit :
    lopsided.OnDepth lopsided.sqrtK ∧
    ∃ next : Curve,
      [.swap .quote (.ofInt 1) .add, .swap .base (.ofInt 799997) .add].foldlM
        (Engine.apply {}) lopsided = .ok next ∧
      next.Poorer lopsided.toReserves ∧
      (next.quote = lopsided.quote ∧
          (lopsided.base.toNat - next.base.toNat) * lopsided.quote.toNat < next.base.toNat ∧
          lopsided.sqrtK.toNat ^ 2 < (lopsided.base.toNat - 1) * (lopsided.quote.toNat + 1) ∨
        next.base = lopsided.base ∧
          (lopsided.quote.toNat - next.quote.toNat) * lopsided.base.toNat < next.quote.toNat ∧
          lopsided.sqrtK.toNat ^ 2 < (lopsided.quote.toNat - 1) * (lopsided.base.toNat + 1)) ∧
      ∃ reserves, lopsided.reservesAfterSwap .base (.ofInt 1) .remove = .ok reserves ∧
        reserves.Poorer lopsided.toReserves := by
  have onDepth : lopsided.OnDepth lopsided.sqrtK := .inl lopsided_quoteRebuilt
  have run : [.swap .quote (.ofInt 1) .add, .swap .base (.ofInt 799997) .add].foldlM
      (Engine.apply {}) lopsided = .ok { lopsided with base := .ofNat 19999999999999997 } := by
    decide +kernel
  have poorer : Reserves.Poorer { base := .ofNat 19999999999999997, quote := lopsided.quote }
      lopsided.toReserves :=
    ⟨by decide, Nat.le_refl _, .inl (by decide)⟩
  obtain ⟨loss, unit⟩ := swaps_loss_lt_unit onDepth
  exact ⟨onDepth, _, run, poorer, loss _ _ _ (by simp [Action.IsSwap]) run poorer,
    unit (by decide)⟩

/-- A single unit of base leaves `lopsided` for nothing. -/
theorem not_swaps_never_poorer :
    ¬ ∀ (curve next : Curve) (engine : Engine) (actions : List Action),
      curve.QuoteRebuilt curve.sqrtK → (∀ action ∈ actions, action.IsSwap) →
      actions.foldlM engine.apply curve = .ok next → ¬ next.Poorer curve.toReserves := by
  intro never
  have run : [.swap .base (.ofInt 1) .remove].foldlM (Engine.apply {}) lopsided =
      .ok { lopsided with base := .ofNat 19999999999999999 } := by
    decide +kernel
  apply never _ _ _ _ lopsided_quoteRebuilt (by simp [Action.IsSwap]) run
  exact ⟨by decide, Nat.le_refl _, .inl (by decide)⟩

end Curve

end PerpetualCurve
