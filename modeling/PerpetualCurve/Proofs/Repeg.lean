import PerpetualCurve.Peg.Repeg
import PerpetualCurve.Proofs.Depth

/-!
# The shape of a repeg

A repeg that succeeds took one of two ways, `MeetsTarget` or `ShrinksFirst`, and a curve that was
updated is its own scaled copy with peg, terminal reserve and fee pool replaced. What later modules
say about a repeg is read off these two facts; none of them opens the decision again.
-/

namespace PerpetualCurve.Curve

/-- The budget pays for the peg that meets `price`, and the depth stays. -/
structure MeetsTarget (curve : Curve) (costs : CostModel) (price budget : Amount)
    (decision : RepegDecision) : Prop where
  numerator_eq : decision.numerator = Amount.one
  denominator_eq : decision.denominator = Amount.one
  peg_eq : pegForPrice curve.base curve.quote price = .ok decision.peg
  cost_eq : costs.repegCost curve decision.peg = .ok decision.cost
  cost_le : decision.cost.toInt ≤ budget.toNat

/-- The budget does not pay for the peg that meets `price`. The depth shrinks to `shrunk`, which
costs `freed`, and the peg goes as far as the budget less this cost allows. -/
structure ShrinksFirst (curve : Curve) (costs : CostModel) (price budget : Amount)
    (freed : SignedAmount) (shrunk : Curve) (decision : RepegDecision) : Prop where
  numerator_eq : decision.numerator = shrinkNumerator
  denominator_eq : decision.denominator = shrinkDenominator
  unaffordable : ∃ target cost, pegForPrice curve.base curve.quote price = .ok target ∧
    costs.repegCost curve target = .ok cost ∧ budget.toNat < cost.toInt
  freed_eq : costs.depthCost curve shrinkNumerator shrinkDenominator = .ok freed
  freed_nonpos : freed.toInt ≤ 0
  shrunk_eq : curve.withScaledDepth shrinkNumerator shrinkDenominator >>= withTerminal = .ok shrunk
  peg_eq : ∃ enlarged : Amount, (enlarged.toNat : Int) = budget.toNat - freed.toInt ∧
    costs.budgetedPeg shrunk enlarged price = .ok decision.peg
  cost_eq : costs.repegCost shrunk decision.peg = .ok decision.cost

variable {curve next : Curve} {oracle : OracleReading} {costs : CostModel}
  {decision : RepegDecision}

/-- The two ways a decision is made. -/
theorem decideRepeg_cases (h : curve.decideRepeg oracle costs = .ok decision) :
    ∃ price budget, oracle.positivePrice = .ok price ∧ curve.repegBudget = .ok budget ∧
      (curve.MeetsTarget costs price budget decision ∨
        ∃ freed shrunk, curve.ShrinksFirst costs price budget freed shrunk decision) := by
  simp only [decideRepeg, Outcome.bind_eq_ok_iff, Unsigned.toSigned_eq_ok_iff] at h
  obtain ⟨price, hprice, target, htarget, cost, hcost, budget, hbudget, limit, hlimit, h⟩ := h
  refine ⟨price, budget, hprice, hbudget, ?_⟩
  split at h
  case isTrue affordable =>
    cases h
    exact .inl {
      numerator_eq := rfl
      denominator_eq := rfl
      peg_eq := htarget
      cost_eq := hcost
      cost_le := hlimit ▸ affordable }
  case isFalse unaffordable =>
    simp only [Outcome.guarded_eq_ok_iff, Outcome.bind_eq_ok_iff, Outcome.pure_eq_ok_iff,
      Unsigned.checked_eq_ok_iff, Signed.toNat_magnitude] at h
    obtain ⟨freed, hfreed, nonpos, enlarged, henlarged, scaled, hscaled, shrunk, hshrunk, peg,
      hpeg, pegCost, hpegCost, rfl⟩ := h
    exact .inr ⟨freed, shrunk, {
      numerator_eq := rfl
      denominator_eq := rfl
      unaffordable := ⟨target, cost, htarget, hcost, by omega⟩
      freed_eq := hfreed
      freed_nonpos := by omega
      shrunk_eq := Outcome.bind_eq_ok_iff.2 ⟨scaled, hscaled, hshrunk⟩
      peg_eq := ⟨enlarged, by omega, hpeg⟩
      cost_eq := hpegCost }⟩

section Cases

variable {price budget : Amount} {freed : SignedAmount} {shrunk : Curve}

theorem MeetsTarget.adjustsDepth_eq (h : curve.MeetsTarget costs price budget decision) :
    decision.adjustsDepth = false := by
  rw [RepegDecision.adjustsDepth, h.numerator_eq, h.denominator_eq]
  rfl

theorem ShrinksFirst.adjustsDepth_eq
    (h : curve.ShrinksFirst costs price budget freed shrunk decision) :
    decision.adjustsDepth = true := by
  rw [RepegDecision.adjustsDepth, h.numerator_eq, h.denominator_eq]
  rfl

theorem ShrinksFirst.peg_shrunk
    (h : curve.ShrinksFirst costs price budget freed shrunk decision) : shrunk.peg = curve.peg := by
  obtain ⟨scaled, hscaled, hshrunk⟩ := Outcome.bind_eq_ok_iff.1 h.shrunk_eq
  obtain ⟨_, _, _, -, -, -, -, rfl⟩ := withScaledDepth_eq_ok_iff.1 hscaled
  obtain ⟨_, -, rfl⟩ := withTerminal_eq_ok_iff.1 hshrunk
  rfl

theorem decideRepeg_meetsTarget (h : curve.decideRepeg oracle costs = .ok decision)
    (keeps : decision.adjustsDepth = false) :
    ∃ price budget, oracle.positivePrice = .ok price ∧ curve.repegBudget = .ok budget ∧
      curve.MeetsTarget costs price budget decision := by
  obtain ⟨price, budget, hprice, hbudget, meets | ⟨freed, shrunk, shrinks⟩⟩ := decideRepeg_cases h
  · exact ⟨price, budget, hprice, hbudget, meets⟩
  · rw [shrinks.adjustsDepth_eq] at keeps
    cases keeps

theorem decideRepeg_shrinksFirst (h : curve.decideRepeg oracle costs = .ok decision)
    (adjusts : decision.adjustsDepth = true) :
    ∃ price budget freed shrunk, oracle.positivePrice = .ok price ∧
      curve.repegBudget = .ok budget ∧
      curve.ShrinksFirst costs price budget freed shrunk decision := by
  obtain ⟨price, budget, hprice, hbudget, meets | ⟨freed, shrunk, shrinks⟩⟩ := decideRepeg_cases h
  · rw [meets.adjustsDepth_eq] at adjusts
    cases adjusts
  · exact ⟨price, budget, freed, shrunk, hprice, hbudget, shrinks⟩

end Cases

/-- An update scales the depth as decided, sets the peg, recomputes the terminal reserve and takes
the cost out of the fee pool. -/
theorem updated_eq_ok_iff :
    curve.updated oracle costs = .ok next ↔
      curve.intensity.toNat = 0 ∧ curve = next ∨
      curve.intensity.toNat ≠ 0 ∧ ∃ decision scaled repegged feePool,
        curve.decideRepeg oracle costs = .ok decision ∧
        curve.withScaledDepth decision.numerator decision.denominator = .ok scaled ∧
        { scaled with peg := decision.peg }.withTerminal = .ok repegged ∧
        feePool.toInt = repegged.feePool.toInt - decision.cost.toInt ∧
        { repegged with feePool } = next := by
  by_cases off : curve.intensity.toNat = 0
  · simp [updated, off]
  · simp [updated, off, Signed.checked_eq_ok_iff]

theorem updated_eq_of_off (h : curve.updated oracle costs = .ok next)
    (off : curve.intensity.toNat = 0) : next = curve := by
  rcases updated_eq_ok_iff.1 h with ⟨-, same⟩ | ⟨on, -⟩
  · exact same.symm
  · exact absurd off on

theorem updated_of_on (h : curve.updated oracle costs = .ok next)
    (on : curve.intensity.toNat ≠ 0) :
    ∃ decision scaled repegged feePool,
      curve.decideRepeg oracle costs = .ok decision ∧
      curve.withScaledDepth decision.numerator decision.denominator = .ok scaled ∧
      { scaled with peg := decision.peg }.withTerminal = .ok repegged ∧
      feePool.toInt = repegged.feePool.toInt - decision.cost.toInt ∧
      { repegged with feePool } = next := by
  rcases updated_eq_ok_iff.1 h with ⟨off, -⟩ | ⟨-, hrest⟩
  · exact absurd off on
  · exact hrest

theorem updated_quoteRebuilt (h : curve.updated oracle costs = .ok next)
    (on : curve.intensity.toNat ≠ 0) : next.QuoteRebuilt next.sqrtK := by
  obtain ⟨_, _, _, _, -, hscaled, hrepegged, -, rfl⟩ := updated_of_on h on
  obtain ⟨_, -, rfl⟩ := withTerminal_eq_ok_iff.1 hrepegged
  have hrebuilt := withScaledDepth_quoteRebuilt hscaled
  exact ⟨hrebuilt.base_pos, hrebuilt.quote_eq⟩

/-- A curve that is turned off stays where it is; any other is rebuilt. -/
theorem updated_onDepth (h : curve.updated oracle costs = .ok next)
    (hc : curve.OnDepth curve.sqrtK) : next.OnDepth next.sqrtK := by
  by_cases off : curve.intensity.toNat = 0
  · exact updated_eq_of_off h off ▸ hc
  · exact .inl (updated_quoteRebuilt h off)

end PerpetualCurve.Curve
