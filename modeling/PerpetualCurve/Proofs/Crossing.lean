import PerpetualCurve.Proofs.Quote
import PerpetualCurve.Proofs.Run

/-!
# Bid below ask

The bid is priced from less quote than the ask and, wherever a run has left the reserves, beside no
less base. Two corners are not covered by this. A curve down to its last unit of base has none left
beside the quote reserve of the ask, and reserves without base have the price zero. And an ask whose
half spread is too small to move the quote reserve still has its base rebuilt, which may give it
more than the curve holds.
-/

namespace PerpetualCurve

namespace Curve

variable {curve : Curve} {oracle : OracleReading} {policy : SpreadPolicy}
  {askSpread bidSpread : Amount} {asking bidding : Reserves}

/-- Wherever the ask has some base and either moves its quote reserve or stays on the curve beside
the bid, it is priced no lower than the bid. -/
theorem bidding_underprices_asking (onDepth : curve.OnDepth curve.sqrtK)
    (hasking : curve.spreadReserves .long oracle policy = .ok asking)
    (hbidding : curve.spreadReserves .short oracle policy = .ok bidding)
    (hask : curve.halfSpread .long oracle policy = .ok askSpread)
    (hbid : curve.halfSpread .short oracle policy = .ok bidSpread)
    (base_pos : 0 < asking.base.toNat)
    (moves : askSpread.toNat < 2 ∨ 2 ≤ bidSpread.toNat ∨
      curve.quote.toNat < asking.quote.toNat) : bidding.Underprices asking := by
  obtain ⟨_, askHalf, hask', haskHalf, hasking⟩ := spreadReserves_eq_ok_iff.1 hasking
  obtain ⟨_, bidHalf, hbid', hbidHalf, hbidding⟩ := spreadReserves_eq_ok_iff.1 hbidding
  cases hask.symm.trans hask'
  cases hbid.symm.trans hbid'
  rcases hasking with ⟨-, rfl⟩ | ⟨ask_moves, hshifted, -, hasking⟩
  · rcases hbidding with ⟨-, rfl⟩ | ⟨-, hshifted, -, hbidding⟩
    · exact .refl base_pos
    · obtain ⟨-, quote_pos, hquote⟩ := shiftedQuote_short_eq_ok_iff.1 hshifted
      refine ⟨base_pos, ?_, by omega⟩
      rw [hbidding]
      exact onDepth.base_le_div quote_pos (by omega)
  · obtain ⟨-, hquote⟩ := shiftedQuote_long_eq_ok_iff.1 hshifted
    rcases hbidding with ⟨bid_stays, rfl⟩ | ⟨-, hshifted, -, hbidding⟩
    · refine ⟨base_pos, ?_, by omega⟩
      rw [hasking]
      exact onDepth.div_le_base (by omega)
    · obtain ⟨-, quote_pos, hlower⟩ := shiftedQuote_short_eq_ok_iff.1 hshifted
      refine ⟨base_pos, ?_, by omega⟩
      rw [hasking, hbidding]
      exact Nat.div_le_div_left (by omega) quote_pos

end Curve

variable {curve : Curve} {oracle : OracleReading} {costs : CostModel} {policy : SpreadPolicy}
  {quotes : BidAsk} {allowed : Action → Prop}

/-- After any run the bid is at most the ask, if the reserves of the ask have some base. Without
base the ask is zero. Left open is the ask whose half spread moves no quote while the bid stays on
the curve. -/
theorem Reachable.bid_le_ask (run : Reachable allowed curve)
    (h : curve.bidAsk oracle costs policy = .ok quotes) :
    ∃ next asking askSpread bidSpread, curve.updated oracle costs = .ok next ∧
      next.spreadReserves .long oracle policy = .ok asking ∧
      next.halfSpread .long oracle policy = .ok askSpread ∧
      next.halfSpread .short oracle policy = .ok bidSpread ∧
      (asking.base.toNat = 0 → quotes.ask.toNat = 0) ∧
      (0 < asking.base.toNat →
        askSpread.toNat < 2 ∨ 2 ≤ bidSpread.toNat ∨ next.quote.toNat < asking.quote.toNat →
        quotes.bid.toNat ≤ quotes.ask.toNat) := by
  obtain ⟨next, asking, bidding, hnext, hasking, hbidding, hask, hbid⟩ :=
    Curve.bidAsk_eq_ok_iff.1 h
  obtain ⟨askSpread, _, haskSpread, -⟩ := Curve.spreadReserves_eq_ok_iff.1 hasking
  obtain ⟨bidSpread, _, hbidSpread, -⟩ := Curve.spreadReserves_eq_ok_iff.1 hbidding
  refine ⟨next, asking, askSpread, bidSpread, hnext, hasking, haskSpread, hbidSpread, ?_, ?_⟩
  · intro empty
    rcases priceOf_eq_ok_iff.1 hask with ⟨-, zero⟩ | ⟨nonempty, -⟩
    · rw [zero, Unsigned.toNat_zero]
    · exact absurd empty nonempty
  · intro base_pos moves
    have onDepth := Curve.updated_onDepth hnext run.onDepth
    obtain ⟨low, hlow, low_le⟩ := (Curve.bidding_underprices_asking onDepth hasking hbidding
      haskSpread hbidSpread base_pos moves).priceOf_le hask
    cases hbid.symm.trans hlow
    exact low_le

/-- Where a run ends that swaps quote, so that the base reserve is the rebuilt one. The curve is
turned off, and its spread shifts both quotes alike. -/
def afterSale : Curve where
  base := .ofNat 17802194476513
  quote := .ofNat 11234569999998
  sqrtK := .ofNat 14142135623730
  peg := .ofNat 1000
  netBase := .ofInt 3000000000000
  terminalQuote := .ofNat 8695652173911
  baseSpread := .ofNat 1000

theorem afterSale_bid_le_ask :
    ∃ quotes asking,
      Reachable (fun _ => True) afterSale ∧
      afterSale.bidAsk { price := .ofInt 8000000000 } .constantProduct .markToTerminal =
        .ok quotes ∧
      afterSale.spreadReserves .long { price := .ofInt 8000000000 } .markToTerminal =
        .ok asking ∧
      0 < asking.base.toNat ∧ afterSale.quote.toNat < asking.quote.toNat ∧
      quotes.bid.toNat ≤ quotes.ask.toNat := by
  have started : Curve.balanced (.ofNat 20000000000000) (.ofNat 10000000000000) (.ofNat 1000) =
      .ok { base := .ofNat 20000000000000, quote := .ofNat 9999999999998,
            sqrtK := .ofNat 14142135623730, peg := .ofNat 1000,
            terminalQuote := .ofNat 9999999999998 } := by
    decide +kernel
  have run : Reachable (fun _ => True) afterSale :=
    Reachable.foldlM {}
      [.setBaseSpread (.ofNat 1000), .setNetBase (.ofInt 3000000000000),
        .swap .quote (.ofInt 123457) .add]
      (.start started) (fun _ _ => trivial) (by decide +kernel)
  have quoted : afterSale.bidAsk { price := .ofInt 8000000000 } .constantProduct .markToTerminal =
      .ok { bid := .ofNat 6307623159, ask := .ofNat 6313933937 } := by
    decide +kernel
  have shifted : afterSale.spreadReserves .long { price := .ofInt 8000000000 } .markToTerminal =
      .ok { base := .ofNat 17797745040255, quote := .ofNat 11237378642497 } := by
    decide +kernel
  obtain ⟨next, asking, _, _, hnext, hasking, -, -, -, ordered⟩ := run.bid_le_ask quoted
  have off : next = afterSale := Curve.updated_eq_of_off hnext (by decide)
  subst off
  cases shifted.symm.trans hasking
  exact ⟨_, _, run, quoted, shifted, by decide, by decide,
    ordered (by decide) (.inr (.inr (by decide)))⟩

-- What is left open does happen: this ask gives way by too little to move nine units of quote, and
-- its base is rebuilt all the same.
example :
    Curve.bidAsk
      { base := .ofNat 30000000, quote := .ofNat 9, sqrtK := .ofNat 17320, peg := .ofNat 1000,
        terminalQuote := .ofNat 9, feePool := .ofInt 1, baseSpread := .ofNat 2,
        intensity := .ofNat 1 }
      { price := .ofInt 3001 } .constantProduct .markToTerminal =
        .ok { bid := .ofNat 3000, ask := .ofNat 2700 } := by
  decide +kernel

/-- Setting a field, the net position included, or swapping. -/
def Action.SetsOrSwaps : Action → Prop
  | .start _ _ _ => False
  | .scaleDepth _ _ => False
  | .recomputeTerminal => False
  | .update _ => False
  | _ => True

/-- A curve that holds one unit of base. -/
def lastUnit : Curve where
  base := .ofNat 1
  quote := .ofNat 1000000000000
  sqrtK := .ofNat 1000000
  peg := .ofNat 1000
  terminalQuote := .ofNat 1000000000000
  baseSpread := .ofNat 1000

theorem lastUnit_reachable : Reachable Action.SetsOrSwaps lastUnit := by
  have started : Curve.balanced (.ofNat 1) (.ofNat 1000000000000) (.ofNat 1000) =
      .ok { lastUnit with baseSpread := 0 } := by
    decide +kernel
  exact Reachable.foldlM {} [.setBaseSpread (.ofNat 1000)] (.start started)
    (by simp [Action.SetsOrSwaps]) (by decide +kernel)

/-- Beside the quote reserve of its ask `lastUnit` has no base, so the ask is zero. -/
theorem not_bid_le_ask :
    ¬ ∀ (curve : Curve) (oracle : OracleReading) (costs : CostModel) (policy : SpreadPolicy)
        (quotes : BidAsk),
      Reachable Action.SetsOrSwaps curve → curve.bidAsk oracle costs policy = .ok quotes →
      quotes.bid.toNat ≤ quotes.ask.toNat := by
  intro ordered
  have quoted : lastUnit.bidAsk { price := .ofInt 1 } .constantProduct .costBasis =
      .ok { bid := .ofNat 9997500000000000000000, ask := 0 } := by
    decide +kernel
  exact absurd (ordered _ _ _ _ _ lastUnit_reachable quoted) (by decide)

end PerpetualCurve
