import PerpetualCurve.Proofs.Quote
import PerpetualCurve.Quote.Size

/-!
# Curves that are turned off

A curve without update intensity is quoted from what it holds itself. It is not repegged, so no
oracle reading is validated and no cost model is asked, and its half spread is half the base spread
under either policy. Whatever a caller passes for the three, every query has the same answer, and if
it fails it fails with the same error. A trade is sized as if there were no oracle at all, except
that without one the curve's own mark stands in and has to be a signed amount.
-/

namespace PerpetualCurve.Curve

variable {curve : Curve} {side : Side} {oracle : OracleReading} {costs costs' : CostModel}
  {policy : SpreadPolicy} {limit mark : Amount}

theorem updated_of_off (off : curve.intensity.toNat = 0) :
    curve.updated oracle costs = .ok curve :=
  updated_eq_ok_iff.2 (.inl ⟨off, rfl⟩)

theorem repeggedMarkPrice_of_off (off : curve.intensity.toNat = 0) :
    curve.repeggedMarkPrice oracle costs = curve.markPrice := by
  rw [repeggedMarkPrice, updated_of_off off, Outcome.ok_bind]

/-- Neither the oracle nor the policy is read. -/
theorem halfSpread_congr_of_off (off : curve.intensity.toNat = 0) (side : Side)
    (oracle oracle' : OracleReading) (policy policy' : SpreadPolicy) :
    curve.halfSpread side oracle policy = curve.halfSpread side oracle' policy' := by
  unfold halfSpread
  rw [if_pos (.inr off), if_pos (.inr off)]

theorem spreadReserves_congr_of_off (off : curve.intensity.toNat = 0) (side : Side)
    (oracle oracle' : OracleReading) (policy policy' : SpreadPolicy) :
    curve.spreadReserves side oracle policy = curve.spreadReserves side oracle' policy' := by
  unfold spreadReserves
  rw [halfSpread_congr_of_off off side oracle oracle' policy policy']

theorem projectedReserves_of_off (off : curve.intensity.toNat = 0) :
    curve.projectedReserves side oracle costs policy =
      (fun reserves => { reserves with sqrtK := curve.sqrtK, peg := curve.peg }) <$>
        curve.spreadReserves side oracle policy := by
  unfold projectedReserves
  rw [updated_of_off off, Outcome.ok_bind, map_eq_pure_bind]

theorem bidAsk_of_off (off : curve.intensity.toNat = 0) :
    curve.bidAsk oracle costs policy = do
      let asking ← curve.spreadReserves .long oracle policy
      let bidding ← curve.spreadReserves .short oracle policy
      let ask ← priceOf asking.base asking.quote curve.peg
      let bid ← priceOf bidding.base bidding.quote curve.peg
      return { bid, ask } := by
  unfold bidAsk
  rw [updated_of_off off, Outcome.ok_bind]

/-- With an oracle, a trade starts on the reserves of the quote. -/
theorem tradeStart_of_off (off : curve.intensity.toNat = 0) :
    curve.tradeStart side (some oracle) costs policy =
      (fun reserves => { base := reserves.base, sqrtK := curve.sqrtK, peg := curve.peg }) <$>
        curve.spreadReserves side oracle policy := by
  simp only [tradeStart, projectedReserves_of_off off, map_eq_pure_bind, bind_assoc, pure_bind]

/-- Without one, it starts there too, but only if the mark can stand in for the oracle. -/
theorem tradeStart_none_of_off (off : curve.intensity.toNat = 0)
    (hmark : curve.markPrice = .ok mark) (fits : mark.toNat < 2 ^ 127) (oracle : OracleReading)
    (policy' : SpreadPolicy) :
    curve.tradeStart side none costs policy =
      (fun reserves => { base := reserves.base, sqrtK := curve.sqrtK, peg := curve.peg }) <$>
        curve.spreadReserves side oracle policy' := by
  obtain ⟨signed, hsigned⟩ : ∃ signed, mark.toSigned = .ok signed := by
    obtain ⟨signed, hsigned⟩ := SignedAmount.exists_toInt (i := mark.toNat) (by omega) (by omega)
    exact ⟨signed, Unsigned.toSigned_eq_ok_iff.2 hsigned⟩
  unfold tradeStart
  rw [hmark, Outcome.ok_bind, hsigned, Outcome.ok_bind, map_eq_pure_bind,
    spreadReserves_congr_of_off off side { price := signed } oracle policy policy']

/-- Beside the limit, a size depends on where the trade starts and on nothing else. -/
theorem maxTrade_congr {reading reading' : Option OracleReading} {policy' : SpreadPolicy}
    (h : curve.tradeStart side reading costs policy =
      curve.tradeStart side reading' costs' policy') :
    curve.maxTrade limit side reading costs policy =
      curve.maxTrade limit side reading' costs' policy' := by
  unfold maxTrade
  rw [h]

/-- Any two callers get the same answers, whether these are values or errors. The curve stays as it
is, and a size that needs no oracle is the one with an oracle. -/
theorem answers_eq_of_off (off : curve.intensity.toNat = 0) (side : Side) (limit : Amount)
    (oracle oracle' : OracleReading) (costs costs' : CostModel) (policy policy' : SpreadPolicy) :
    curve.updated oracle costs = .ok curve ∧
    curve.updated oracle costs = curve.updated oracle' costs' ∧
    curve.repeggedMarkPrice oracle costs = curve.repeggedMarkPrice oracle' costs' ∧
    curve.halfSpread side oracle policy = curve.halfSpread side oracle' policy' ∧
    curve.spreadReserves side oracle policy = curve.spreadReserves side oracle' policy' ∧
    curve.projectedReserves side oracle costs policy =
      curve.projectedReserves side oracle' costs' policy' ∧
    curve.bidAsk oracle costs policy = curve.bidAsk oracle' costs' policy' ∧
    curve.maxTrade limit side (some oracle) costs policy =
      curve.maxTrade limit side (some oracle') costs' policy' ∧
    ∀ mark, curve.markPrice = .ok mark → mark.toNat < 2 ^ 127 →
      curve.maxTrade limit side (some oracle) costs policy =
        curve.maxTrade limit side none costs' policy' := by
  have half_eq := halfSpread_congr_of_off off side oracle oracle' policy policy'
  have reserves_eq side := spreadReserves_congr_of_off off side oracle oracle' policy policy'
  refine ⟨updated_of_off off, ?_, ?_, half_eq, reserves_eq side, ?_, ?_, ?_, ?_⟩
  · rw [updated_of_off off, updated_of_off off]
  · rw [repeggedMarkPrice_of_off off, repeggedMarkPrice_of_off off]
  · rw [projectedReserves_of_off off, projectedReserves_of_off off, reserves_eq]
  · rw [bidAsk_of_off off, bidAsk_of_off off, reserves_eq, reserves_eq]
  · apply maxTrade_congr
    rw [tradeStart_of_off off, tradeStart_of_off off, reserves_eq]
  · intro mark hmark fits
    apply maxTrade_congr
    rw [tradeStart_of_off off, tradeStart_none_of_off off hmark fits]

/-- A curve that is turned off, with a position and a base spread. -/
def idle : Curve := { uneven with intensity := 0 }

/-- A cost model without an answer to any question. -/
def silent : CostModel where
  repegCost _ _ := .error (.overflow .repegCost)
  depthCost _ _ _ := .error (.overflow .payoutScale)
  budgetedPeg _ _ _ := .error (.overflow .targetPeg)

/-- A price of zero, which no repeg accepts, and a model that prices none change nothing. -/
theorem idle_answers_eq :
    idle.intensity.toNat = 0 ∧
    idle.markPrice = .ok (.ofNat 499999999999) ∧
    idle.updated { price := 0 } silent = .ok idle ∧
    idle.bidAsk { price := 0 } silent .markToTerminal =
      .ok { bid := .ofNat 499750031249, ask := .ofNat 500250031249 } ∧
    idle.maxTrade (.ofNat 600000000000) .long (some { price := 0 }) silent .markToTerminal =
      idle.maxTrade (.ofNat 600000000000) .long none .constantProduct .costBasis := by
  have off : idle.intensity.toNat = 0 := by decide
  have marked : idle.markPrice = .ok (.ofNat 499999999999) := by decide +kernel
  have quoted : idle.bidAsk { price := .ofInt 551234567891 } .constantProduct .costBasis =
      .ok { bid := .ofNat 499750031249, ask := .ofNat 500250031249 } := by
    decide +kernel
  obtain ⟨stays, -, -, -, -, -, quotes_eq, -, size_eq⟩ :=
    answers_eq_of_off off .long (.ofNat 600000000000) { price := 0 }
      { price := .ofInt 551234567891 } silent .constantProduct .markToTerminal .costBasis
  exact ⟨off, marked, stays, quotes_eq.trans quoted, size_eq _ marked (by decide)⟩

end PerpetualCurve.Curve
