import PerpetualCurve.Proofs.Cost
import PerpetualCurve.Proofs.Repeg

/-!
# What a repeg may spend

Half of all exchange fees is reserved, and the budget of a repeg is the rest of the fee pool. A
repeg that keeps the depth costs at most the budget. One that shrinks the depth first costs at most
the budget and what the shrink frees, and what the shrink frees does not go into the fee pool. So
this is how far an update can cut into the reserved half.
-/

namespace PerpetualCurve.Curve

/-- The part of the fee pool that is not for spending: half of all exchange fees, or the whole pool
where it holds less. -/
def feeFloor (curve : Curve) : Int := min curve.feePool.toInt (curve.exchangeFees.toNat / 2 : Nat)

variable {curve next shrunk : Curve} {oracle : OracleReading} {decision : RepegDecision}
  {price budget : Amount} {freed : SignedAmount}

/-- A curve has a budget unless its debt is too wide for a signed amount. The budget is what the fee
pool holds above half of all exchange fees. -/
theorem repegBudget_eq_ok_iff :
    curve.repegBudget = .ok budget ↔
      -2 ^ 127 ≤ curve.feePool.toInt - (curve.exchangeFees.toNat / 2 : Nat) ∧
      (budget.toNat : Int) =
        max 0 (curve.feePool.toInt - (curve.exchangeFees.toNat / 2 : Nat)) := by
  have fees_lt := curve.exchangeFees.toNat_lt
  have pool_lt : curve.feePool.toInt < 2 ^ 127 := curve.feePool.toInt_lt
  simp only [repegBudget, Outcome.bind_eq_ok_iff, Unsigned.toSigned_eq_ok_iff,
    Signed.checked_eq_ok_iff]
  constructor
  · rintro ⟨reserved, hreserved, surplus, hsurplus, h⟩
    have surplus_ge : -2 ^ 127 ≤ surplus.toInt := surplus.neg_le_toInt
    split at h
    case isTrue short =>
      rw [Outcome.pure_eq_ok_iff] at h
      rw [← h, Unsigned.toNat_zero]
      omega
    case isFalse enough =>
      rw [Signed.toUnsigned_eq_ok_iff] at h
      omega
  · rintro ⟨fits, hbudget⟩
    obtain ⟨reserved, hreserved⟩ := SignedAmount.exists_toInt
      (show -2 ^ 127 ≤ ((curve.exchangeFees.toNat / 2 : Nat) : Int) by omega) (by omega)
    obtain ⟨surplus, hsurplus⟩ := SignedAmount.exists_toInt
      (show -2 ^ 127 ≤ curve.feePool.toInt - reserved.toInt by omega) (by omega)
    refine ⟨reserved, hreserved, surplus, hsurplus, ?_⟩
    split
    case isTrue short =>
      rw [Outcome.pure_eq_ok_iff, Unsigned.ext_iff, Unsigned.toNat_zero]
      omega
    case isFalse enough =>
      rw [Signed.toUnsigned_eq_ok_iff]
      omega

theorem repegBudget_toNat (h : curve.repegBudget = .ok budget) :
    (budget.toNat : Int) = curve.feePool.toInt - curve.feeFloor := by
  have budget_eq := (repegBudget_eq_ok_iff.1 h).2
  unfold feeFloor
  omega

/-- A budget has room in the signed range. -/
theorem exists_toSigned_of_repegBudget (h : curve.repegBudget = .ok budget) :
    ∃ limit, budget.toSigned = .ok limit := by
  have budget_eq := (repegBudget_eq_ok_iff.1 h).2
  have pool_lt : curve.feePool.toInt < 2 ^ 127 := curve.feePool.toInt_lt
  obtain ⟨limit, hlimit⟩ := SignedAmount.exists_toInt
    (show -2 ^ 127 ≤ (budget.toNat : Int) by omega) (by omega)
  exact ⟨limit, Unsigned.toSigned_eq_ok_iff.2 hlimit⟩

/-- The walk on the shrunk curve starts at the peg of the curve. -/
theorem ShrinksFirst.walk
    (h : curve.ShrinksFirst .constantProduct price budget freed shrunk decision) :
    ∃ target, pegForPrice shrunk.base shrunk.quote price = .ok target ∧
      min curve.peg.toNat target.toNat ≤ decision.peg.toNat ∧
      decision.peg.toNat ≤ max curve.peg.toNat target.toNat ∧
      decision.cost.toInt ≤ budget.toNat - freed.toInt := by
  obtain ⟨enlarged, henlarged, hpeg⟩ := h.peg_eq
  obtain ⟨target, htarget, walk⟩ := budgetedPeg_walk hpeg
  have hpos := pegForPrice_pos htarget
  have between := walk.between hpos
  rw [h.peg_shrunk] at between
  have hcost := walk.cost_le hpos h.cost_eq
  exact ⟨target, htarget, between.1, between.2, by omega⟩

/-- A repeg that keeps the depth meets the oracle within the budget. One that shrinks the depth
stays within the budget and what the shrink frees, on the way from the peg to the target. -/
theorem decideRepeg_within_budget (h : curve.decideRepeg oracle .constantProduct = .ok decision) :
    ∃ budget, curve.repegBudget = .ok budget ∧
      (decision.adjustsDepth = false →
        curve.targetPeg oracle = .ok decision.peg ∧
        curve.repegCost decision.peg = .ok decision.cost ∧
        decision.cost.toInt ≤ budget.toNat) ∧
      (decision.adjustsDepth = true →
        ∃ freed shrunk target,
          curve.depthCost shrinkNumerator shrinkDenominator = .ok freed ∧ freed.toInt ≤ 0 ∧
          curve.withScaledDepth shrinkNumerator shrinkDenominator >>= withTerminal = .ok shrunk ∧
          shrunk.repegCost decision.peg = .ok decision.cost ∧
          decision.cost.toInt ≤ budget.toNat - freed.toInt ∧
          shrunk.targetPeg oracle = .ok target ∧
          min curve.peg.toNat target.toNat ≤ decision.peg.toNat ∧
          decision.peg.toNat ≤ max curve.peg.toNat target.toNat) := by
  cases adjusts : decision.adjustsDepth with
  | false =>
    obtain ⟨price, budget, hprice, hbudget, meets⟩ := decideRepeg_meetsTarget h adjusts
    refine ⟨budget, hbudget, fun _ => ?_, nofun⟩
    exact ⟨targetPeg_eq_ok_iff.2 ⟨price, hprice, meets.peg_eq⟩, meets.cost_eq, meets.cost_le⟩
  | true =>
    obtain ⟨price, budget, freed, shrunk, hprice, hbudget, shrinks⟩ :=
      decideRepeg_shrinksFirst h adjusts
    obtain ⟨target, htarget, low, high, hcost⟩ := shrinks.walk
    refine ⟨budget, hbudget, nofun, fun _ => ?_⟩
    exact ⟨freed, shrunk, target, shrinks.freed_eq, shrinks.freed_nonpos, shrinks.shrunk_eq,
      shrinks.cost_eq, hcost, targetPeg_eq_ok_iff.2 ⟨price, hprice, htarget⟩, low, high⟩

/-- A curve whose fee pool holds the reserved half and nothing more. Traders are long against it, so
a higher peg costs, and the shrink pays for a part of the way. -/
def emptyBudget : Curve where
  base := .ofNat 10000000000000000
  quote := .ofNat 10000000000000000
  sqrtK := .ofNat 10000000000000000
  peg := .ofNat 50000
  netBase := .ofInt 1000000000000000
  terminalQuote := .ofNat 9090909090909090
  exchangeFees := .ofNat 40000000
  feePool := .ofInt 20000000
  intensity := .ofNat 100

theorem emptyBudget_decideRepeg :
    emptyBudget.decideRepeg { price := .ofInt 550000000000 } .constantProduct =
      .ok {
        cost := .ofInt 363603, numerator := shrinkNumerator, denominator := shrinkDenominator,
        peg := .ofNat 50004 } := by
  decide +kernel

theorem emptyBudget_within_budget :
    ∃ decision budget,
      emptyBudget.decideRepeg { price := .ofInt 550000000000 } .constantProduct = .ok decision ∧
      decision.adjustsDepth = true ∧ emptyBudget.repegBudget = .ok budget ∧
      ∃ freed shrunk target,
        emptyBudget.depthCost shrinkNumerator shrinkDenominator = .ok freed ∧ freed.toInt ≤ 0 ∧
        emptyBudget.withScaledDepth shrinkNumerator shrinkDenominator >>= withTerminal =
          .ok shrunk ∧
        shrunk.repegCost decision.peg = .ok decision.cost ∧
        decision.cost.toInt ≤ budget.toNat - freed.toInt ∧
        shrunk.targetPeg { price := .ofInt 550000000000 } = .ok target ∧
        min emptyBudget.peg.toNat target.toNat ≤ decision.peg.toNat ∧
        decision.peg.toNat ≤ max emptyBudget.peg.toNat target.toNat := by
  have decided := emptyBudget_decideRepeg
  obtain ⟨budget, hbudget, -, hshrinks⟩ := decideRepeg_within_budget decided
  exact ⟨_, budget, decided, rfl, hbudget, hshrinks rfl⟩

/-! ## The fee pool -/

variable {costs : CostModel}

/-- An update that is turned on takes the cost of its decision out of the fee pool. -/
theorem updated_feePool (h : curve.updated oracle costs = .ok next)
    (hd : curve.decideRepeg oracle costs = .ok decision) (on : curve.intensity.toNat ≠ 0) :
    next.feePool.toInt = curve.feePool.toInt - decision.cost.toInt := by
  obtain ⟨_, scaled, repegged, feePool, hdecided, hscaled, hrepegged, hpool, rfl⟩ :=
    updated_of_on h on
  cases hd.symm.trans hdecided
  obtain ⟨_, -, rfl⟩ := withTerminal_eq_ok_iff.1 hrepegged
  obtain ⟨_, _, _, -, -, -, -, rfl⟩ := withScaledDepth_eq_ok_iff.1 hscaled
  exact hpool

theorem feeFloor_le_of_off (h : curve.updated oracle costs = .ok next)
    (off : curve.intensity.toNat = 0) : curve.feeFloor ≤ next.feePool.toInt := by
  rw [updated_eq_of_off h off]
  exact Int.min_le_left _ _

/-- An update that is turned on keeps the reserved part exactly when the budget pays for it. -/
theorem feeFloor_le_iff_cost_le (h : curve.updated oracle costs = .ok next)
    (hd : curve.decideRepeg oracle costs = .ok decision) (hb : curve.repegBudget = .ok budget)
    (on : curve.intensity.toNat ≠ 0) :
    curve.feeFloor ≤ next.feePool.toInt ↔ decision.cost.toInt ≤ budget.toNat := by
  rw [updated_feePool h hd on, repegBudget_toNat hb]
  omega

/-- An update that keeps the depth keeps the reserved part. -/
theorem feeFloor_le_of_keeps (h : curve.updated oracle costs = .ok next)
    (hd : curve.decideRepeg oracle costs = .ok decision) (keeps : decision.adjustsDepth = false) :
    curve.feeFloor ≤ next.feePool.toInt := by
  by_cases off : curve.intensity.toNat = 0
  · exact feeFloor_le_of_off h off
  · obtain ⟨_, budget, -, hbudget, meets⟩ := decideRepeg_meetsTarget hd keeps
    exact (feeFloor_le_iff_cost_le h hd hbudget off).2 meets.cost_le

/-- An update that shrinks the depth would keep the reserved part if it were credited with what the
shrink frees. -/
theorem feeFloor_le_sub_freed (h : curve.updated oracle .constantProduct = .ok next)
    (hd : curve.decideRepeg oracle .constantProduct = .ok decision)
    (shrinks : curve.ShrinksFirst .constantProduct price budget freed shrunk decision)
    (hb : curve.repegBudget = .ok budget) :
    curve.feeFloor ≤ next.feePool.toInt - freed.toInt := by
  have nonpos := shrinks.freed_nonpos
  by_cases off : curve.intensity.toNat = 0
  · have kept := feeFloor_le_of_off h off
    omega
  · obtain ⟨_, -, -, -, hcost⟩ := shrinks.walk
    have hbudget := repegBudget_toNat hb
    rw [updated_feePool h hd off]
    omega

/-- An update keeps the reserved part of the fee pool exactly when it is turned off or the budget
alone pays for the peg. A repeg that keeps the depth always does. One that shrinks it falls short by
no more than what the shrink frees, and the fee pool is not credited with that. -/
theorem feeFloor_le_feePool_iff (h : curve.updated oracle .constantProduct = .ok next) :
    (curve.feeFloor ≤ next.feePool.toInt ↔
      curve.intensity.toNat = 0 ∨
        ∃ decision budget, curve.decideRepeg oracle .constantProduct = .ok decision ∧
          curve.repegBudget = .ok budget ∧ decision.cost.toInt ≤ budget.toNat) ∧
    ∀ decision, curve.decideRepeg oracle .constantProduct = .ok decision →
      (decision.adjustsDepth = false → curve.feeFloor ≤ next.feePool.toInt) ∧
      (decision.adjustsDepth = true →
        ∃ freed, curve.depthCost shrinkNumerator shrinkDenominator = .ok freed ∧
          freed.toInt ≤ 0 ∧ curve.feeFloor ≤ next.feePool.toInt - freed.toInt) := by
  refine ⟨⟨fun kept => ?_, ?_⟩, fun decision hd => ⟨feeFloor_le_of_keeps h hd, fun adjusts => ?_⟩⟩
  · by_cases off : curve.intensity.toNat = 0
    · exact .inl off
    · obtain ⟨decision, _, _, _, hd, -⟩ := updated_of_on h off
      obtain ⟨_, budget, -, hbudget, -⟩ := decideRepeg_cases hd
      have hcost := (feeFloor_le_iff_cost_le h hd hbudget off).1 kept
      exact .inr ⟨decision, budget, hd, hbudget, hcost⟩
  · rintro (off | ⟨decision, budget, hd, hbudget, hcost⟩)
    · exact feeFloor_le_of_off h off
    · by_cases off : curve.intensity.toNat = 0
      · exact feeFloor_le_of_off h off
      · exact (feeFloor_le_iff_cost_le h hd hbudget off).2 hcost
  · obtain ⟨_, budget, freed, _, -, hbudget, shrinks⟩ := decideRepeg_shrinksFirst hd adjusts
    exact ⟨freed, shrinks.freed_eq, shrinks.freed_nonpos,
      feeFloor_le_sub_freed h hd shrinks hbudget⟩

/-- The curve after the update that shrinks the depth of `emptyBudget`. -/
def overspent : Curve :=
  { emptyBudget with
    base := .ofNat 9990000000000000
    quote := .ofNat 9990000000000000
    sqrtK := .ofNat 9990000000000000
    peg := .ofNat 50004
    terminalQuote := .ofNat 9080991810737033
    feePool := .ofInt 19636397 }

theorem emptyBudget_updated :
    emptyBudget.updated { price := .ofInt 550000000000 } .constantProduct = .ok overspent := by
  decide +kernel

theorem overspent_feePool_iff :
    emptyBudget.updated { price := .ofInt 550000000000 } .constantProduct = .ok overspent ∧
    (emptyBudget.feeFloor ≤ overspent.feePool.toInt ↔
      emptyBudget.intensity.toNat = 0 ∨
        ∃ decision budget,
          emptyBudget.decideRepeg { price := .ofInt 550000000000 } .constantProduct =
            .ok decision ∧
          emptyBudget.repegBudget = .ok budget ∧ decision.cost.toInt ≤ budget.toNat) ∧
    ∃ freed, emptyBudget.depthCost shrinkNumerator shrinkDenominator = .ok freed ∧
      freed.toInt ≤ 0 ∧ emptyBudget.feeFloor ≤ overspent.feePool.toInt - freed.toInt := by
  obtain ⟨hiff, hdecided⟩ := feeFloor_le_feePool_iff emptyBudget_updated
  exact ⟨emptyBudget_updated, hiff, (hdecided _ emptyBudget_decideRepeg).2 rfl⟩

/-- An update can spend from the reserved half of the exchange fees. -/
theorem not_feeFloor_le_feePool :
    ¬ ∀ (curve next : Curve) (oracle : OracleReading),
      curve.updated oracle .constantProduct = .ok next →
        curve.feeFloor ≤ next.feePool.toInt := by
  intro kept
  have : emptyBudget.feeFloor ≤ overspent.feePool.toInt := kept _ _ _ emptyBudget_updated
  exact absurd this (by decide)

end PerpetualCurve.Curve
