import PerpetualCurve.Proofs.Nearest
import PerpetualCurve.Proofs.Terminal

/-!
# Updates that keep the depth

Where the budget pays for the peg that meets the oracle, an update of a canonical curve replaces the
peg and the fee pool, and nothing else. Four laws follow. The mark of the result misses the oracle
by at most half a unit of the peg and a unit of price. A curve whose mark is the price of the oracle
has its target for a peg, so it stays as it is. A curve without a position has no gap that a peg
could be charged for, so its fee pool stays too. And the result of an update stays as it is when it
is updated again: the peg is in place, and leaving it there costs nothing.
-/

namespace PerpetualCurve

/-- The decision for the peg `peg` that keeps the depth and costs nothing. A curve with this peg is
left as it is. -/
def RepegDecision.staying (peg : Amount) : RepegDecision :=
  { cost := 0, numerator := Amount.one, denominator := Amount.one, peg }

namespace Curve

variable {curve next : Curve} {oracle : OracleReading} {costs : CostModel}
  {decision : RepegDecision} {price budget target mark : Amount} {cost : SignedAmount}

/-- What meets the target within the budget is decided. -/
theorem MeetsTarget.decideRepeg_eq (h : curve.MeetsTarget costs price budget decision)
    (hprice : oracle.positivePrice = .ok price) (hbudget : curve.repegBudget = .ok budget) :
    curve.decideRepeg oracle costs = .ok decision := by
  obtain ⟨limit, hlimit⟩ := exists_toSigned_of_repegBudget hbudget
  have affordable : decision.cost.toInt ≤ limit.toInt := by
    rw [Unsigned.toSigned_eq_ok_iff.1 hlimit]
    exact h.cost_le
  simp only [decideRepeg, Outcome.bind_eq_ok_iff]
  refine ⟨price, hprice, decision.peg, h.peg_eq, decision.cost, h.cost_eq, budget, hbudget, limit,
    hlimit, ?_⟩
  rw [if_pos affordable, Outcome.pure_eq_ok_iff, RepegDecision.ext_iff]
  exact ⟨rfl, h.numerator_eq.symm, h.denominator_eq.symm, rfl⟩

/-- An update whose decision keeps the depth sets the peg and recomputes the terminal reserve. -/
theorem updated_eq_ok_iff_of_keeps (on : curve.intensity.toNat ≠ 0)
    (rebuilt : curve.QuoteRebuilt curve.sqrtK)
    (hd : curve.decideRepeg oracle costs = .ok decision) (keeps : decision.adjustsDepth = false) :
    curve.updated oracle costs = .ok next ↔
      ∃ repegged feePool, { curve with peg := decision.peg }.withTerminal = .ok repegged ∧
        feePool.toInt = repegged.feePool.toInt - decision.cost.toInt ∧
        { repegged with feePool } = next := by
  obtain ⟨_, _, -, -, meets⟩ := decideRepeg_meetsTarget hd keeps
  have scaled : curve.withScaledDepth decision.numerator decision.denominator = .ok curve := by
    rw [meets.numerator_eq, meets.denominator_eq]
    exact withScaledDepth_one rebuilt
  rw [updated_eq_ok_iff]
  constructor
  · rintro (⟨off, -⟩ | ⟨-, decision', scaled', repegged, feePool, hd', hscaled, hrest⟩)
    · exact absurd off on
    · cases hd.symm.trans hd'
      cases scaled.symm.trans hscaled
      exact ⟨repegged, feePool, hrest⟩
  · rintro ⟨repegged, feePool, hrest⟩
    exact .inr ⟨on, decision, curve, repegged, feePool, hd, scaled, hrest⟩

/-- On a canonical curve the terminal reserve stays, so peg and fee pool are all that changes. -/
theorem updated_eq_ok_iff_of_canonical (on : curve.intensity.toNat ≠ 0)
    (canonical : curve.Canonical) (hd : curve.decideRepeg oracle costs = .ok decision)
    (keeps : decision.adjustsDepth = false) :
    curve.updated oracle costs = .ok next ↔
      ∃ feePool : SignedAmount, feePool.toInt = curve.feePool.toInt - decision.cost.toInt ∧
        { curve with peg := decision.peg, feePool } = next := by
  have same : { curve with peg := decision.peg }.withTerminal =
      .ok { curve with peg := decision.peg } :=
    withTerminal_setPeg _ (withTerminal_eq_self_iff.2 canonical.fresh)
  rw [updated_eq_ok_iff_of_keeps on canonical.quoteRebuilt hd keeps]
  constructor
  · rintro ⟨repegged, feePool, hrepegged, hpool, rfl⟩
    cases same.symm.trans hrepegged
    exact ⟨feePool, hpool, rfl⟩
  · rintro ⟨feePool, hpool, rfl⟩
    exact ⟨_, feePool, same, hpool, rfl⟩

/-! ## The mark after an update -/

/-- An update that keeps the depth brings the mark to within half a unit of the peg and a unit of
price of the oracle. -/
theorem updated_mark_near_oracle (h : curve.updated oracle costs = .ok next)
    (on : curve.intensity.toNat ≠ 0)
    (quote_eq : curve.quote.toNat = curve.sqrtK.toNat ^ 2 / curve.base.toNat)
    (hd : curve.decideRepeg oracle costs = .ok decision) (keeps : decision.adjustsDepth = false)
    (hmark : next.markPrice = .ok mark)
    (half_le : (Scale.priceToPeg * curve.quote.toNat : Nat) ≤
      2 * (oracle.price.toInt * curve.base.toNat)) :
    2 * curve.base.toNat * (mark.toNat - oracle.price.toInt).natAbs ≤
      Scale.priceToPeg * curve.quote.toNat + 2 * curve.base.toNat := by
  have base_pos := updated_base_pos h on
  obtain ⟨price, budget, hprice, -, meets⟩ := decideRepeg_meetsTarget hd keeps
  obtain ⟨repegged, feePool, hrepegged, -, rfl⟩ :=
    (updated_eq_ok_iff_of_keeps on ⟨base_pos, quote_eq⟩ hd keeps).1 h
  obtain ⟨terminal, -, rfl⟩ := withTerminal_eq_ok_iff.1 hrepegged
  rw [← positivePrice_toNat hprice] at half_le ⊢
  exact mark_near_price meets.peg_eq hmark (Nat.ne_of_gt base_pos) (by exact_mod_cast half_le)

/-- A curve whose fee pool pays for a repeg. Traders are long against it, and its quote reserve was
rounded down. -/
def funded : Curve where
  base := .ofNat 20000000000000
  quote := .ofNat 9999999999998
  sqrtK := .ofNat 14142135623730
  peg := .ofNat 1000
  netBase := .ofInt 3000000000000
  terminalQuote := .ofNat 8695652173911
  exchangeFees := .ofNat 2000000
  feePool := .ofInt 4000000
  intensity := .ofNat 1

theorem funded_decideRepeg :
    funded.decideRepeg { price := .ofInt 7777500000 } .constantProduct =
      .ok {
        cost := .ofInt 72521, numerator := Amount.one, denominator := Amount.one,
        peg := .ofNat 1556 } := by
  decide +kernel

/-- The curve after the update that the fee pool of `funded` pays for. -/
def repegged : Curve := { funded with peg := .ofNat 1556, feePool := .ofInt 3927479 }

theorem funded_updated :
    funded.updated { price := .ofInt 7777500000 } .constantProduct = .ok repegged := by
  decide +kernel

/-- The price is halfway between two pegs, so the mark misses it by almost half a unit. -/
theorem funded_mark_near_oracle :
    funded.updated { price := .ofInt 7777500000 } .constantProduct = .ok repegged ∧
    repegged.markPrice = .ok (.ofNat 7779999999) ∧
    2 * funded.base.toNat * 2499999 ≤
      Scale.priceToPeg * funded.quote.toNat + 2 * funded.base.toNat := by
  have marked : repegged.markPrice = .ok (.ofNat 7779999999) := by decide +kernel
  exact ⟨funded_updated, marked, updated_mark_near_oracle funded_updated (by decide) (by decide)
    funded_decideRepeg rfl marked (by decide)⟩

/-! ## Curves that stay -/

/-- A decision looked at the target, whichever way it was made. -/
theorem exists_targetPeg (hd : curve.decideRepeg oracle costs = .ok decision) :
    ∃ target, curve.targetPeg oracle = .ok target := by
  obtain ⟨price, budget, hprice, -, meets | ⟨_, _, shrinks⟩⟩ := decideRepeg_cases hd
  · exact ⟨_, targetPeg_eq_ok_iff.2 ⟨price, hprice, meets.peg_eq⟩⟩
  · obtain ⟨target, _, htarget, -, -⟩ := shrinks.unaffordable
    exact ⟨target, targetPeg_eq_ok_iff.2 ⟨price, hprice, htarget⟩⟩

/-- Where the target is free, no budget is too small for it, and so it is decided. -/
theorem decideRepeg_of_free (hd : curve.decideRepeg oracle costs = .ok decision)
    (free : ∀ target cost, curve.targetPeg oracle = .ok target →
      costs.repegCost curve target = .ok cost → cost.toInt = 0) :
    decision = .staying decision.peg ∧ curve.targetPeg oracle = .ok decision.peg := by
  obtain ⟨price, budget, hprice, -, meets | ⟨_, _, shrinks⟩⟩ := decideRepeg_cases hd
  · have at_target : curve.targetPeg oracle = .ok decision.peg :=
      targetPeg_eq_ok_iff.2 ⟨price, hprice, meets.peg_eq⟩
    have cost_eq : decision.cost = 0 := Signed.ext (free _ _ at_target meets.cost_eq)
    exact ⟨RepegDecision.ext cost_eq meets.numerator_eq meets.denominator_eq rfl, at_target⟩
  · obtain ⟨_, cost, htarget, hcost, exceeds⟩ := shrinks.unaffordable
    have cost_eq := free _ _ (targetPeg_eq_ok_iff.2 ⟨price, hprice, htarget⟩) hcost
    omega

/-- Where the peg is the target, leaving it there is free, and so it is decided. -/
theorem decideRepeg_eq_staying (hd : curve.decideRepeg oracle .constantProduct = .ok decision)
    (at_target : curve.targetPeg oracle = .ok curve.peg) : decision = .staying curve.peg := by
  obtain ⟨stays, decided⟩ := decideRepeg_of_free hd fun target cost htarget hcost =>
    repegCost_of_same hcost (Except.ok.inj (htarget.symm.trans at_target))
  rw [Except.ok.inj (at_target.symm.trans decided)]
  exact stays

/-- An update that decides to leave a canonical curve as it is has nothing to take from the fee
pool. -/
theorem updated_eq_ok_self (on : curve.intensity.toNat ≠ 0) (canonical : curve.Canonical)
    (hd : curve.decideRepeg oracle costs = .ok (.staying curve.peg)) :
    curve.updated oracle costs = .ok curve :=
  (updated_eq_ok_iff_of_canonical on canonical hd rfl).2 ⟨curve.feePool, (Int.sub_zero _).symm, rfl⟩

/-- The target of a curve whose mark is the price of the oracle is its peg. -/
theorem targetPeg_of_mark (h : curve.targetPeg oracle = .ok target)
    (base_pos : 0 < curve.base.toNat) (peg_pos : 1 ≤ curve.peg.toNat)
    (fine : curve.base.toNat ≤ Scale.priceToPeg / 2 * curve.quote.toNat)
    (hmark : curve.markPrice = .ok mark) (at_mark : oracle.price.toInt = mark.toNat) :
    target = curve.peg := by
  obtain ⟨price, hprice, htarget⟩ := targetPeg_eq_ok_iff.1 h
  have price_eq : price = mark := by
    have := positivePrice_toNat hprice
    exact Unsigned.ext (by omega)
  exact pegForPrice_of_priceOf (price_eq ▸ htarget) hmark (Nat.ne_of_gt base_pos) peg_pos fine

/-- A curve whose mark is the price of the oracle stays as it is: what is decided, if the curve is
turned on, is to move no peg, pay nothing and keep the depth. -/
theorem updated_eq_self_of_mark (h : curve.updated oracle .constantProduct = .ok next)
    (base_pos : 0 < curve.base.toNat)
    (quote_eq : curve.quote.toNat = curve.sqrtK.toNat ^ 2 / curve.base.toNat)
    (peg_pos : 1 ≤ curve.peg.toNat)
    (fresh : ∃ terminal, curve.terminalReserves = .ok terminal ∧
      curve.terminalQuote = terminal.quote)
    (fine : curve.base.toNat ≤ Scale.priceToPeg / 2 * curve.quote.toNat)
    (hmark : curve.markPrice = .ok mark) (at_mark : oracle.price.toInt = mark.toNat) :
    next = curve ∧
      (curve.intensity.toNat ≠ 0 →
        ∃ decision, curve.decideRepeg oracle .constantProduct = .ok decision) ∧
      ∀ decision, curve.decideRepeg oracle .constantProduct = .ok decision →
        decision.cost.toInt = 0 ∧ decision.adjustsDepth = false ∧ decision.peg = curve.peg := by
  have stays (decision : RepegDecision)
      (hd : curve.decideRepeg oracle .constantProduct = .ok decision) :
      decision = .staying curve.peg := by
    obtain ⟨target, htarget⟩ := exists_targetPeg hd
    have at_target := targetPeg_of_mark htarget base_pos peg_pos fine hmark at_mark
    exact decideRepeg_eq_staying hd (at_target ▸ htarget)
  refine ⟨?_, fun on => ?_, fun decision hd => ?_⟩
  · by_cases off : curve.intensity.toNat = 0
    · exact updated_eq_of_off h off
    · obtain ⟨decision, _, _, _, hd, -⟩ := updated_of_on h off
      have same := updated_eq_ok_self off ⟨⟨base_pos, quote_eq⟩, fresh⟩ (stays _ hd ▸ hd)
      exact Except.ok.inj (h.symm.trans same)
  · obtain ⟨decision, _, _, _, hd, -⟩ := updated_of_on h on
    exact ⟨decision, hd⟩
  · rw [stays decision hd]
    exact ⟨rfl, rfl, rfl⟩

/-- A curve on which a unit of price weighs almost half a unit of the peg. -/
def coarse : Curve where
  base := .ofNat 4900000000000
  quote := .ofNat 999999
  sqrtK := .ofNat 2213594362
  peg := .ofNat 123
  netBase := .ofInt (-700000000000)
  terminalQuote := .ofNat 1166666
  feePool := .ofInt (-5)
  intensity := .ofNat 1

theorem coarse_updated :
    coarse.updated { price := .ofInt 251 } .constantProduct = .ok coarse ∧
    coarse.markPrice = .ok (.ofNat 251) ∧
    ∃ decision, coarse.decideRepeg { price := .ofInt 251 } .constantProduct = .ok decision ∧
      decision.cost.toInt = 0 ∧ decision.adjustsDepth = false ∧ decision.peg = coarse.peg := by
  have updated : ∃ next, coarse.updated { price := .ofInt 251 } .constantProduct = .ok next := by
    refine ⟨coarse, ?_⟩
    decide +kernel
  have marked : coarse.markPrice = .ok (.ofNat 251) := by decide +kernel
  have closed : coarse.terminalReserves =
      .ok { base := .ofNat 4200000000000, quote := .ofNat 1166666 } := by
    decide +kernel
  obtain ⟨next, hnext⟩ := updated
  obtain ⟨same, decides, stays⟩ := updated_eq_self_of_mark hnext (by decide) (by decide) (by decide)
    ⟨_, closed, rfl⟩ (by decide) marked (by decide)
  obtain ⟨decision, hd⟩ := decides (by decide)
  subst same
  exact ⟨hnext, marked, decision, hd, stays decision hd⟩

/-! ## Curves without a position -/

/-- Where closing the position pays out nothing, every peg costs nothing. -/
theorem repegCost_of_no_gap (h : curve.repegCost target = .ok cost)
    (no_gap : curve.terminalQuote = curve.quote) : cost.toInt = 0 := by
  rw [repegCost_toInt h, no_gap, Int.sub_self, Int.zero_mul]
  rfl

/-- Without a position a repeg goes to the target, keeps the depth and takes nothing from the fee
pool, whatever is in it. The update succeeds and replaces the peg alone. -/
theorem updated_of_flat (on : curve.intensity.toNat ≠ 0) (flat : curve.netBase.toInt = 0)
    (base_pos : 0 < curve.base.toNat)
    (quote_eq : curve.quote.toNat = curve.sqrtK.toNat ^ 2 / curve.base.toNat)
    (terminalQuote_eq : curve.terminalQuote = curve.quote)
    (hd : curve.decideRepeg oracle .constantProduct = .ok decision) :
    decision.cost.toInt = 0 ∧ decision.adjustsDepth = false ∧
      curve.targetPeg oracle = .ok decision.peg ∧
      curve.updated oracle .constantProduct = .ok { curve with peg := decision.peg } := by
  obtain ⟨free, decided⟩ := decideRepeg_of_free hd fun _ _ _ hcost =>
    repegCost_of_no_gap hcost terminalQuote_eq
  have cost_eq : decision.cost.toInt = 0 := congrArg (fun d => d.cost.toInt) free
  have keeps : decision.adjustsDepth = false := congrArg RepegDecision.adjustsDepth free
  have rebuilt : curve.QuoteRebuilt curve.sqrtK := ⟨base_pos, quote_eq⟩
  have fresh := fresh_of_flat rebuilt (Signed.ext flat) terminalQuote_eq
  refine ⟨cost_eq, keeps, decided, ?_⟩
  rw [updated_eq_ok_iff_of_canonical on ⟨rebuilt, fresh⟩ hd keeps]
  exact ⟨curve.feePool, by rw [cost_eq, Int.sub_zero], rfl⟩

/-- A curve without a position whose fee pool is in deficit. -/
def unheld : Curve :=
  { funded with netBase := 0, terminalQuote := funded.quote, feePool := .ofInt (-4000000) }

theorem unheld_updated :
    unheld.decideRepeg { price := .ofInt 7777500000 } .constantProduct =
      .ok (.staying (.ofNat 1556)) ∧
    unheld.targetPeg { price := .ofInt 7777500000 } = .ok (.ofNat 1556) ∧
    unheld.updated { price := .ofInt 7777500000 } .constantProduct =
      .ok { unheld with peg := .ofNat 1556 } := by
  have hd : unheld.decideRepeg { price := .ofInt 7777500000 } .constantProduct =
      .ok (.staying (.ofNat 1556)) := by
    decide +kernel
  obtain ⟨-, -, at_target, updated⟩ :=
    updated_of_flat (by decide) (by decide) (by decide) (by decide) rfl hd
  exact ⟨hd, at_target, updated⟩

/-! ## Updating twice -/

/-- A peg that is in place costs nothing. -/
theorem repegCost_eq_zero {other : Curve} (h : curve.repegCost target = .ok cost)
    (quote_eq : other.quote = curve.quote)
    (terminalQuote_eq : other.terminalQuote = curve.terminalQuote)
    (peg_eq : other.peg = target) : other.repegCost target = .ok 0 := by
  simp only [repegCost, Outcome.bind_eq_ok_iff, Outcome.pure_eq_ok_iff,
    Signed.checked_eq_ok_iff] at h ⊢
  obtain ⟨gap, hgap, newPeg, hnew, -, -, -, -, -, -, -⟩ := h
  have hgap' : other.terminalQuoteGap = .ok gap := by
    rw [← hgap, terminalQuoteGap, terminalQuoteGap, quote_eq, terminalQuote_eq]
  refine ⟨gap, hgap', newPeg, hnew, newPeg, peg_eq ▸ hnew, 0, ?_, 0, ?_, ?_⟩
  · rw [Int.sub_self, Signed.toInt_zero]
  · rw [Signed.toInt_zero, Int.mul_zero]
  · rfl

/-- What is left of a budget after a cost within it is a budget again. -/
theorem exists_repegBudget {other : Curve} (hb : curve.repegBudget = .ok budget)
    (affordable : cost.toInt ≤ budget.toNat) (fees_eq : other.exchangeFees = curve.exchangeFees)
    (feePool_eq : other.feePool.toInt = curve.feePool.toInt - cost.toInt) :
    ∃ rest, other.repegBudget = .ok rest := by
  obtain ⟨fits, budget_eq⟩ := repegBudget_eq_ok_iff.1 hb
  have pool_lt : other.feePool.toInt < 2 ^ 127 := other.feePool.toInt_lt
  have rest_lt : (max 0 (other.feePool.toInt - (other.exchangeFees.toNat / 2 : Nat))).toNat <
      2 ^ 128 := by omega
  refine ⟨⟨_, rest_lt⟩, repegBudget_eq_ok_iff.2 ⟨?_, ?_⟩⟩
  · rw [fees_eq]
    omega
  · exact Int.toNat_of_nonneg (Int.le_max_left _ _)

/-- After an update that kept the depth, the same oracle leaves the curve as it is. -/
theorem updated_idempotent (h : curve.updated oracle .constantProduct = .ok next)
    (base_pos : 0 < curve.base.toNat)
    (quote_eq : curve.quote.toNat = curve.sqrtK.toNat ^ 2 / curve.base.toNat)
    (fresh : ∃ terminal, curve.terminalReserves = .ok terminal ∧
      curve.terminalQuote = terminal.quote)
    (keeps : curve.intensity.toNat = 0 ∨ ∃ decision,
      curve.decideRepeg oracle .constantProduct = .ok decision ∧ decision.adjustsDepth = false) :
    next.updated oracle .constantProduct = .ok next := by
  by_cases off : curve.intensity.toNat = 0
  · have same := updated_eq_of_off h off
    rw [same] at h ⊢
    exact h
  obtain ⟨decision, hd, hkeeps⟩ := keeps.resolve_left off
  obtain ⟨price, budget, hprice, hbudget, meets⟩ := decideRepeg_meetsTarget hd hkeeps
  have canonical : next.Canonical := updated_canonical h off
  obtain ⟨feePool, hpool, hnext⟩ :=
    (updated_eq_ok_iff_of_canonical off ⟨⟨base_pos, quote_eq⟩, fresh⟩ hd hkeeps).1 h
  have on : next.intensity.toNat ≠ 0 := by rw [← hnext]; exact off
  obtain ⟨rest, hrest⟩ : ∃ rest, next.repegBudget = .ok rest :=
    exists_repegBudget hbudget meets.cost_le (by rw [← hnext]) (by rw [← hnext]; exact hpool)
  have settled : next.MeetsTarget .constantProduct price rest (.staying next.peg) := {
    numerator_eq := rfl
    denominator_eq := rfl
    peg_eq := by rw [← hnext]; exact meets.peg_eq
    cost_eq := by rw [← hnext]; exact repegCost_eq_zero meets.cost_eq rfl rfl rfl
    cost_le := Int.natCast_nonneg _ }
  exact updated_eq_ok_self on canonical (settled.decideRepeg_eq hprice hrest)

theorem repegged_updated :
    funded.updated { price := .ofInt 7777500000 } .constantProduct = .ok repegged ∧
    repegged.updated { price := .ofInt 7777500000 } .constantProduct = .ok repegged := by
  have closed : funded.terminalReserves =
      .ok { base := .ofNat 23000000000000, quote := .ofNat 8695652173911 } := by
    decide +kernel
  exact ⟨funded_updated, updated_idempotent funded_updated (by decide) (by decide)
    ⟨_, closed, rfl⟩ (.inr ⟨_, funded_decideRepeg, rfl⟩)⟩

end Curve

end PerpetualCurve
