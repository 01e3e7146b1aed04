import PerpetualCurve.Proofs.Budget
import PerpetualCurve.Proofs.Run

/-!
# Canonical curves

Two fields of a curve are derived from others: the quote reserve from depth and base reserve, and
the terminal reserve from these and the net position. A curve is canonical where both are up to
date. Every run that neither scales the depth by hand nor swaps stays canonical, and an update makes
a curve canonical wherever it starts.

The decision of a repeg prices the peg on a copy of the curve, and the update derives depth, quote
and terminal reserve once more. From a canonical curve both arrive at the same reserves, so what the
fee pool is charged is the cost of the peg on the curve that results.
-/

namespace PerpetualCurve

/-- A ratio of one scales nothing. -/
theorem mulDiv_one (a : Amount) : mulDiv a Amount.one Amount.one = .ok a := by
  have one : Amount.one.toNat = 1 := rfl
  have a_lt := a.toNat_lt
  rw [mulDiv_eq_ok_iff, one]
  exact ⟨by omega, by omega, by omega⟩

namespace Curve

/-- The terminal reserve is the quote reserve that is left once the net position is closed. -/
def Fresh (curve : Curve) : Prop :=
  ∃ terminal, curve.terminalReserves = .ok terminal ∧ curve.terminalQuote = terminal.quote

/-- Quote reserve and terminal reserve are the ones the other fields determine. -/
structure Canonical (curve : Curve) : Prop where
  quoteRebuilt : curve.QuoteRebuilt curve.sqrtK
  fresh : curve.Fresh

variable {curve next : Curve}

/-- Closing the position reads the base reserve, the depth and the position, and nothing else. -/
theorem terminalReserves_congr {other : Curve} (base_eq : curve.base = other.base)
    (sqrtK_eq : curve.sqrtK = other.sqrtK) (netBase_eq : curve.netBase = other.netBase) :
    curve.terminalReserves = other.terminalReserves := by
  simp only [terminalReserves, reservesAfterSwap, invariant, base_eq, sqrtK_eq, netBase_eq]

theorem Fresh.congr {other : Curve} (h : curve.Fresh) (base_eq : curve.base = other.base)
    (sqrtK_eq : curve.sqrtK = other.sqrtK) (netBase_eq : curve.netBase = other.netBase)
    (terminalQuote_eq : curve.terminalQuote = other.terminalQuote) : other.Fresh := by
  unfold Fresh
  rw [← terminalReserves_congr base_eq sqrtK_eq netBase_eq, ← terminalQuote_eq]
  exact h

/-- Fees, spreads, peg and cost basis have no part in being canonical. -/
theorem Canonical.congr {other : Curve} (h : curve.Canonical)
    (reserves_eq : curve.toReserves = other.toReserves) (sqrtK_eq : curve.sqrtK = other.sqrtK)
    (netBase_eq : curve.netBase = other.netBase)
    (terminalQuote_eq : curve.terminalQuote = other.terminalQuote) : other.Canonical := by
  constructor
  case quoteRebuilt =>
    rw [← reserves_eq, ← sqrtK_eq]
    exact h.quoteRebuilt
  case fresh =>
    have base_eq : curve.base = other.base := congrArg Reserves.base reserves_eq
    exact h.fresh.congr base_eq sqrtK_eq netBase_eq terminalQuote_eq

/-- Recomputing the terminal reserve changes nothing exactly where it is fresh. -/
theorem withTerminal_eq_self_iff : curve.withTerminal = .ok curve ↔ curve.Fresh := by
  rw [withTerminal_eq_ok_iff]
  constructor
  · rintro ⟨terminal, hterminal, same⟩
    exact ⟨terminal, hterminal, (congrArg terminalQuote same).symm⟩
  · rintro ⟨terminal, hterminal, fresh⟩
    exact ⟨terminal, hterminal, by rw [← fresh]⟩

theorem withTerminal_fresh (h : curve.withTerminal = .ok next) : next.Fresh := by
  obtain ⟨terminal, hterminal, rfl⟩ := withTerminal_eq_ok_iff.1 h
  exact ⟨terminal, hterminal, rfl⟩

/-- Recomputing the terminal reserve beside a rebuilt quote reserve makes a curve canonical. -/
theorem withTerminal_canonical (h : curve.withTerminal = .ok next)
    (rebuilt : curve.QuoteRebuilt curve.sqrtK) : next.Canonical := by
  have fresh := withTerminal_fresh h
  obtain ⟨terminal, -, rfl⟩ := withTerminal_eq_ok_iff.1 h
  exact ⟨rebuilt, fresh⟩

/-- The peg has no part in closing the position. -/
theorem withTerminal_setPeg (peg : Amount) (h : curve.withTerminal = .ok next) :
    { curve with peg }.withTerminal = .ok { next with peg } := by
  obtain ⟨terminal, hterminal, rfl⟩ := withTerminal_eq_ok_iff.1 h
  exact withTerminal_eq_ok_iff.2 ⟨terminal, hterminal, rfl⟩

/-- Without a position nothing is left to close. -/
theorem terminalReserves_of_flat (rebuilt : curve.QuoteRebuilt curve.sqrtK)
    (flat : curve.netBase = 0) : curve.terminalReserves = .ok curve.toReserves := by
  rw [terminalReserves_eq_ok_iff, flat, Signed.toInt_zero, Int.add_zero]
  exact ⟨by decide, rfl, Nat.ne_of_gt rebuilt.base_pos, rebuilt.quote_eq⟩

theorem fresh_of_flat (rebuilt : curve.QuoteRebuilt curve.sqrtK) (flat : curve.netBase = 0)
    (terminalQuote_eq : curve.terminalQuote = curve.quote) : curve.Fresh :=
  ⟨curve.toReserves, terminalReserves_of_flat rebuilt flat, terminalQuote_eq⟩

theorem balanced_canonical {base quote peg : Amount} (h : balanced base quote peg = .ok curve) :
    curve.Canonical := by
  have rebuilt := balanced_quoteRebuilt h
  obtain ⟨sqrtK, quote', -, -, -, rfl⟩ := balanced_eq_ok_iff.1 h
  exact ⟨rebuilt, fresh_of_flat rebuilt rfl rfl⟩

/-- Scaling by one only rebuilds the quote reserve. -/
theorem withScaledDepth_one (h : curve.QuoteRebuilt curve.sqrtK) :
    curve.withScaledDepth Amount.one Amount.one = .ok curve := by
  rw [withScaledDepth_eq_ok_iff]
  exact ⟨curve.base, curve.sqrtK, curve.quote, mulDiv_one _, mulDiv_one _,
    Nat.ne_of_gt h.base_pos, h.quote_eq, rfl⟩

section Update

variable {oracle : OracleReading} {costs : CostModel}

/-- A curve without base cannot be updated. -/
theorem updated_base_pos (h : curve.updated oracle costs = .ok next)
    (on : curve.intensity.toNat ≠ 0) : 0 < curve.base.toNat := by
  obtain ⟨_, _, _, _, -, hscaled, -, -, -⟩ := updated_of_on h on
  obtain ⟨base, _, _, hbase, -, hne, -, -⟩ := withScaledDepth_eq_ok_iff.1 hscaled
  obtain ⟨-, -, scaled_eq⟩ := mulDiv_eq_ok_iff.1 hbase
  apply Nat.pos_of_ne_zero
  intro empty
  rw [empty, Nat.zero_mul, Nat.zero_div] at scaled_eq
  exact hne scaled_eq

/-- An update that is turned on derives both reserves anew, whatever they were before. -/
theorem updated_canonical (h : curve.updated oracle costs = .ok next)
    (on : curve.intensity.toNat ≠ 0) : next.Canonical := by
  have rebuilt := updated_quoteRebuilt h on
  obtain ⟨_, _, _, _, -, -, hrepegged, -, rfl⟩ := updated_of_on h on
  exact ⟨rebuilt, (withTerminal_fresh hrepegged).congr rfl rfl rfl rfl⟩

end Update

end Curve

/-! ## Runs -/

/-- The actions that leave no reserve out of date: all but scaling the depth, which keeps the
terminal reserve, and swaps, which keep it and may rebuild the base reserve instead of the quote
reserve. -/
def Action.DerivesReserves : Action → Prop
  | .scaleDepth _ _ => False
  | .swap _ _ _ => False
  | _ => True

variable {engine : Engine} {curve next : Curve} {action : Action}

theorem apply_canonical (h : engine.apply curve action = .ok next)
    (derives : action.DerivesReserves) (hc : curve.Canonical) : next.Canonical := by
  cases action with
  | start base quote peg => exact Curve.balanced_canonical h
  | setBaseSpread spread => cases h; exact hc.congr rfl rfl rfl rfl
  | setIntensity intensity => cases h; exact hc.congr rfl rfl rfl rfl
  | setFees exchangeFees feePool => cases h; exact hc.congr rfl rfl rfl rfl
  | setCostBasis long short => cases h; exact hc.congr rfl rfl rfl rfl
  | setNetBase netBase => exact Curve.withTerminal_canonical h hc.quoteRebuilt
  | scaleDepth numerator denominator => exact derives.elim
  | recomputeTerminal => exact Curve.withTerminal_canonical h hc.quoteRebuilt
  | update oracle =>
    by_cases off : curve.intensity.toNat = 0
    · exact Curve.updated_eq_of_off h off ▸ hc
    · exact Curve.updated_canonical h off
  | swap asset amount flow => exact derives.elim

theorem Reachable.canonical (h : Reachable Action.DerivesReserves curve) : curve.Canonical := by
  induction h with
  | start hstart => exact Curve.balanced_canonical hstart
  | step action _ derives happly ih => exact apply_canonical happly derives ih

/-- A run of actions that derive their reserves ends canonical. An update ends so from any curve it
is turned on for: neither recomputing the terminal reserve nor rebuilding the quote reserve changes
its result. -/
theorem canonical_of_run_or_update :
    (∀ curve, Reachable Action.DerivesReserves curve →
      0 < curve.base.toNat ∧
        curve.quote.toNat = curve.sqrtK.toNat ^ 2 / curve.base.toNat ∧
        ∃ terminal, curve.terminalReserves = .ok terminal ∧
          curve.terminalQuote = terminal.quote) ∧
    ∀ (curve next : Curve) (oracle : OracleReading) (costs : CostModel),
      curve.intensity.toNat ≠ 0 → curve.updated oracle costs = .ok next →
        next.withTerminal = .ok next ∧
          next.withScaledDepth Amount.one Amount.one = .ok next := by
  constructor
  · intro curve run
    obtain ⟨rebuilt, fresh⟩ := run.canonical
    exact ⟨rebuilt.base_pos, rebuilt.quote_eq, fresh⟩
  · intro curve next oracle costs on h
    obtain ⟨rebuilt, fresh⟩ := Curve.updated_canonical h on
    exact ⟨Curve.withTerminal_eq_self_iff.2 fresh, Curve.withScaledDepth_one rebuilt⟩

/-- Where a run ends that buys, shrinks the depth in a repeg, and then turns the net position
around. -/
def turnedAround : Curve where
  base := .ofNat 19980000000000
  quote := .ofNat 9989999999998
  sqrtK := .ofNat 14127993488106
  peg := .ofNat 1000
  netBase := .ofInt (-3000000000001)
  terminalQuote := .ofNat 11755017667843
  exchangeFees := .ofNat 2000000
  feePool := .ofInt 500000
  intensity := .ofNat 1

/-- The run leads to `turnedAround`; the update starts from `afterRun`, whose base reserve is the
rebuilt one and whose terminal reserve is out of date. -/
theorem turnedAround_canonical :
    Reachable Action.DerivesReserves turnedAround ∧
    (0 < turnedAround.base.toNat ∧
      turnedAround.quote.toNat = turnedAround.sqrtK.toNat ^ 2 / turnedAround.base.toNat ∧
      ∃ terminal, turnedAround.terminalReserves = .ok terminal ∧
        turnedAround.terminalQuote = terminal.quote) ∧
    afterRun.withTerminal ≠ .ok afterRun ∧
    ∃ next, afterRun.updated { price := .ofInt 8000000000 } .constantProduct = .ok next ∧
      next.withTerminal = .ok next ∧
      next.withScaledDepth Amount.one Amount.one = .ok next := by
  have started : Curve.balanced (.ofNat 20000000000000) (.ofNat 10000000000000) (.ofNat 1000) =
      .ok { base := .ofNat 20000000000000, quote := .ofNat 9999999999998,
            sqrtK := .ofNat 14142135623730, peg := .ofNat 1000,
            terminalQuote := .ofNat 9999999999998 } := by
    decide +kernel
  have run : Reachable Action.DerivesReserves turnedAround := by
    refine Reachable.foldlM {}
      [.setIntensity (.ofNat 1), .setFees (.ofNat 2000000) (.ofInt 500000),
        .setNetBase (.ofInt 3000000000000), .update { price := .ofInt 7000000000 },
        .setNetBase (.ofInt (-3000000000001))]
      (.start started) ?_ (by decide +kernel)
    simp [Action.DerivesReserves]
  have stale : afterRun.withTerminal ≠ .ok afterRun := by decide +kernel
  have repegged : afterRun.updated { price := .ofInt 8000000000 } .constantProduct =
      .ok { afterRun with
        base := .ofNat 6639704396039, quote := .ofNat 5510482572854,
        sqrtK := .ofNat 6048799497692, peg := .ofNat 964,
        terminalQuote := .ofNat 3795549516882, feePool := .ofInt 6173 } := by
    decide +kernel
  obtain ⟨canonical, fixed⟩ := canonical_of_run_or_update
  exact ⟨run, canonical _ run, stale, _, repegged,
    fixed _ _ _ _ (by decide) repegged⟩

/-! ## What an update charges -/

namespace Curve

variable {oracle : OracleReading} {costs : CostModel}

/-- From a canonical curve the reserves a decision prices the peg on are the reserves the update
arrives at: peg and fee pool apart, the result is the curve the decision looked at. -/
theorem updated_eq_priced (h : curve.updated oracle costs = .ok next)
    (on : curve.intensity.toNat ≠ 0) (canonical : curve.Canonical) :
    ∃ priced feePool cost, priced.peg = curve.peg ∧
      costs.repegCost priced next.peg = .ok cost ∧
      feePool.toInt = curve.feePool.toInt - cost.toInt ∧
      next = { priced with peg := next.peg, feePool } := by
  obtain ⟨decision, scaled, repegged, feePool, hdecided, hscaled, hrepegged, hpool, rfl⟩ :=
    updated_of_on h on
  have feePool_eq : repegged.feePool = curve.feePool := by
    obtain ⟨_, -, rfl⟩ := withTerminal_eq_ok_iff.1 hrepegged
    obtain ⟨_, _, _, -, -, -, -, rfl⟩ := withScaledDepth_eq_ok_iff.1 hscaled
    rfl
  rw [feePool_eq] at hpool
  obtain ⟨_, _, -, -, meets | ⟨_, shrunk, shrinks⟩⟩ := decideRepeg_cases hdecided
  · -- the depth stays, and a canonical curve is its own copy
    rw [meets.numerator_eq, meets.denominator_eq, withScaledDepth_one canonical.quoteRebuilt]
      at hscaled
    cases hscaled
    have same : curve.withTerminal = .ok curve := withTerminal_eq_self_iff.2 canonical.fresh
    cases hrepegged.symm.trans (withTerminal_setPeg decision.peg same)
    exact ⟨curve, feePool, decision.cost, rfl, meets.cost_eq, hpool, rfl⟩
  · rw [shrinks.numerator_eq, shrinks.denominator_eq] at hscaled
    have hshrunk : scaled.withTerminal = .ok shrunk := by
      have copied := shrinks.shrunk_eq
      rwa [hscaled, Outcome.ok_bind] at copied
    cases hrepegged.symm.trans (withTerminal_setPeg decision.peg hshrunk)
    exact ⟨shrunk, feePool, decision.cost, shrinks.peg_shrunk, shrinks.cost_eq, hpool, rfl⟩

/-- The fee pool is charged what the peg move costs on the curve that results, whether the depth
shrinks or not. -/
theorem updated_charges_repegCost (h : curve.updated oracle .constantProduct = .ok next)
    (on : curve.intensity.toNat ≠ 0)
    (quote_eq : curve.quote.toNat = curve.sqrtK.toNat ^ 2 / curve.base.toNat)
    (fresh : ∃ terminal, curve.terminalReserves = .ok terminal ∧
      curve.terminalQuote = terminal.quote) :
    ∃ cost, { next with peg := curve.peg }.repegCost next.peg = .ok cost ∧
      curve.feePool.toInt - next.feePool.toInt = cost.toInt := by
  have canonical : curve.Canonical := ⟨⟨updated_base_pos h on, quote_eq⟩, fresh⟩
  obtain ⟨priced, feePool, cost, hpeg, hcost, hpool, hnext⟩ := updated_eq_priced h on canonical
  refine ⟨cost, ?_, ?_⟩
  · -- a cost reads neither fee pool nor the peg that was just set
    rw [hnext, ← hpeg]
    exact hcost
  · rw [hnext, hpool]
    omega

/-- The repeg of `emptyBudget` shrinks the depth, and its charge is the cost on the shrunk curve. -/
theorem overspent_charge :
    emptyBudget.updated { price := .ofInt 550000000000 } .constantProduct = .ok overspent ∧
    emptyBudget.intensity.toNat ≠ 0 ∧
    emptyBudget.quote.toNat = emptyBudget.sqrtK.toNat ^ 2 / emptyBudget.base.toNat ∧
    (∃ terminal, emptyBudget.terminalReserves = .ok terminal ∧
      emptyBudget.terminalQuote = terminal.quote) ∧
    ∃ cost, { overspent with peg := emptyBudget.peg }.repegCost overspent.peg = .ok cost ∧
      emptyBudget.feePool.toInt - overspent.feePool.toInt = cost.toInt := by
  have on : emptyBudget.intensity.toNat ≠ 0 := by decide
  have quote_eq : emptyBudget.quote.toNat =
      emptyBudget.sqrtK.toNat ^ 2 / emptyBudget.base.toNat := by decide
  have closed : emptyBudget.terminalReserves =
      .ok { base := .ofNat 11000000000000000, quote := .ofNat 9090909090909090 } := by
    decide +kernel
  have fresh : ∃ terminal, emptyBudget.terminalReserves = .ok terminal ∧
      emptyBudget.terminalQuote = terminal.quote := ⟨_, closed, rfl⟩
  exact ⟨emptyBudget_updated, on, quote_eq, fresh,
    updated_charges_repegCost emptyBudget_updated on quote_eq fresh⟩

end Curve

end PerpetualCurve
