import PerpetualCurve.Proofs.Quote

/-!
# Closing the net position

Closing the position gives the base that traders hold back to the pool, or takes out of it what they
owe. By way of a side, a flow and a size the base reserve changes by just the position, sign
included, and the quote reserve is rebuilt beside it. Such reserves exist where both are amounts,
some base is left, and the position has a size.

A long position leaves the pool with more base and less quote, so the terminal price is at most the
mark. A short position leaves it with less base and more quote, so the mark is at most the terminal
price.
-/

namespace PerpetualCurve

/-- On one depth, the reserves with more base have the lower price. -/
theorem Reserves.QuoteRebuilt.underprices {low high : Reserves} {sqrtK : Amount}
    (hlow : low.QuoteRebuilt sqrtK) (hhigh : high.QuoteRebuilt sqrtK)
    (base_le : high.base.toNat ≤ low.base.toNat) : low.Underprices high := by
  constructor
  case base_pos => exact hhigh.base_pos
  case base_le => exact base_le
  case quote_le =>
    rw [hlow.quote_eq, hhigh.quote_eq]
    exact Nat.div_le_div_left base_le hhigh.base_pos

namespace Curve

variable {curve : Curve} {terminal : Reserves}

theorem terminal_quoteRebuilt (h : curve.terminalReserves = .ok terminal) :
    terminal.QuoteRebuilt curve.sqrtK := by
  obtain ⟨-, -, base_ne, quote_eq⟩ := terminalReserves_eq_ok_iff.1 h
  exact ⟨Nat.pos_of_ne_zero base_ne, quote_eq⟩

theorem terminalPrice_eq_priceOf (h : curve.terminalReserves = .ok terminal) :
    curve.terminalPrice = priceOf terminal.base terminal.quote curve.peg := by
  rw [terminalPrice, h, Outcome.ok_bind]

/-- A position can be closed where it has a size, leaves some base, and leaves reserves that are
amounts. -/
theorem exists_terminalReserves_iff :
    (∃ terminal, curve.terminalReserves = .ok terminal) ↔
      curve.netBase.toInt ≠ -2 ^ 127 ∧ 0 < curve.base.toNat + curve.netBase.toInt ∧
        curve.base.toNat + curve.netBase.toInt < 2 ^ 128 ∧
        curve.sqrtK.toNat ^ 2 / (curve.base.toNat + curve.netBase.toInt).toNat < 2 ^ 128 := by
  constructor
  · rintro ⟨terminal, h⟩
    obtain ⟨ne_least, base_eq, base_ne, quote_eq⟩ := terminalReserves_eq_ok_iff.1 h
    have base_lt := terminal.base.toNat_lt
    refine ⟨ne_least, by omega, by omega, ?_⟩
    rw [← base_eq, Int.toNat_natCast, ← quote_eq]
    exact terminal.quote.toNat_lt
  · rintro ⟨ne_least, pos, base_lt, quote_lt⟩
    obtain ⟨base, base_eq⟩ := Amount.exists_toNat (Int.le_of_lt pos) base_lt
    rw [← base_eq, Int.toNat_natCast] at quote_lt
    exact ⟨⟨base, ⟨_, quote_lt⟩⟩,
      terminalReserves_eq_ok_iff.2 ⟨ne_least, base_eq, by dsimp only; omega, rfl⟩⟩

/-- A curve whose traders are long is priced no higher once they are out. -/
theorem terminal_underprices (rebuilt : curve.QuoteRebuilt curve.sqrtK)
    (h : curve.terminalReserves = .ok terminal) (long : 0 ≤ curve.netBase.toInt) :
    terminal.Underprices curve.toReserves := by
  obtain ⟨-, base_eq, -, -⟩ := terminalReserves_eq_ok_iff.1 h
  exact (terminal_quoteRebuilt h).underprices rebuilt (by omega)

/-- A curve whose traders are short is priced no lower once they are out. -/
theorem underprices_terminal (rebuilt : curve.QuoteRebuilt curve.sqrtK)
    (h : curve.terminalReserves = .ok terminal) (short : curve.netBase.toInt ≤ 0) :
    curve.toReserves.Underprices terminal := by
  obtain ⟨-, base_eq, -, -⟩ := terminalReserves_eq_ok_iff.1 h
  exact rebuilt.underprices (terminal_quoteRebuilt h) (by omega)

/-- Closing changes the base reserve by the net position and rebuilds the quote reserve, and fails
only where this leaves the range of reserves. It moves the price against the position: of mark and
terminal price the lower one exists where the higher one does. -/
theorem terminalReserves_against_position (curve : Curve) :
    ((∃ terminal, curve.terminalReserves = .ok terminal) ↔
      curve.netBase.toInt ≠ -2 ^ 127 ∧ 0 < curve.base.toNat + curve.netBase.toInt ∧
        curve.base.toNat + curve.netBase.toInt < 2 ^ 128 ∧
        curve.sqrtK.toNat ^ 2 / (curve.base.toNat + curve.netBase.toInt).toNat < 2 ^ 128) ∧
    ∀ terminal, curve.terminalReserves = .ok terminal →
      terminal.base.toNat = curve.base.toNat + curve.netBase.toInt ∧
      terminal.quote.toNat =
        curve.sqrtK.toNat ^ 2 / (curve.base.toNat + curve.netBase.toInt).toNat ∧
      (curve.QuoteRebuilt curve.sqrtK →
        (0 ≤ curve.netBase.toInt → terminal.quote.toNat ≤ curve.quote.toNat ∧
          ∀ mark, curve.markPrice = .ok mark →
            ∃ price, curve.terminalPrice = .ok price ∧ price.toNat ≤ mark.toNat) ∧
        (curve.netBase.toInt ≤ 0 → curve.quote.toNat ≤ terminal.quote.toNat ∧
          ∀ price, curve.terminalPrice = .ok price →
            ∃ mark, curve.markPrice = .ok mark ∧ mark.toNat ≤ price.toNat)) := by
  refine ⟨exists_terminalReserves_iff, fun terminal h => ?_⟩
  obtain ⟨-, base_eq, -, quote_eq⟩ := terminalReserves_eq_ok_iff.1 h
  refine ⟨base_eq, ?_, fun rebuilt => ⟨fun long => ?_, fun short => ?_⟩⟩
  · rw [← base_eq, Int.toNat_natCast]
    exact quote_eq
  · have lower := terminal_underprices rebuilt h long
    rw [terminalPrice_eq_priceOf h]
    exact ⟨lower.quote_le, fun _ hmark => lower.priceOf_le hmark⟩
  · have higher := underprices_terminal rebuilt h short
    rw [terminalPrice_eq_priceOf h]
    exact ⟨higher.quote_le, fun _ hprice => higher.priceOf_le hprice⟩

/-- `uneven`, with traders short by as much as they were long. -/
def shorted : Curve := { uneven with netBase := .ofInt (-100000000000000) }

/-- Closing `uneven` lowers the price, and closing `shorted` raises it. A position that takes all of
the base cannot be closed. -/
theorem uneven_against_position :
    uneven.terminalReserves =
      .ok { base := .ofNat 10100000000000007, quote := .ofNat 9900990099009894 } ∧
    uneven.markPrice = .ok (.ofNat 499999999999) ∧
    (∃ price, uneven.terminalPrice = .ok price ∧ price.toNat ≤ 499999999999) ∧
    shorted.terminalReserves =
      .ok { base := .ofNat 9900000000000007, quote := .ofNat 10101010101010093 } ∧
    shorted.terminalPrice = .ok (.ofNat 510152025303) ∧
    (∃ mark, shorted.markPrice = .ok mark ∧ mark.toNat ≤ 510152025303) ∧
    ¬ ∃ terminal, { uneven with netBase := .ofInt (-10000000000000007) }.terminalReserves =
      .ok terminal := by
  have rebuilt : uneven.QuoteRebuilt uneven.sqrtK := ⟨by decide, by decide⟩
  have longClosed : uneven.terminalReserves =
      .ok { base := .ofNat 10100000000000007, quote := .ofNat 9900990099009894 } := by
    decide +kernel
  have shortClosed : shorted.terminalReserves =
      .ok { base := .ofNat 9900000000000007, quote := .ofNat 10101010101010093 } := by
    decide +kernel
  have marked : uneven.markPrice = .ok (.ofNat 499999999999) := by decide +kernel
  have priced : shorted.terminalPrice = .ok (.ofNat 510152025303) := by decide +kernel
  obtain ⟨-, closing⟩ := terminalReserves_against_position uneven
  obtain ⟨-, -, moves⟩ := closing _ longClosed
  obtain ⟨-, closing'⟩ := terminalReserves_against_position shorted
  obtain ⟨-, -, moves'⟩ := closing' _ shortClosed
  obtain ⟨closable_iff, -⟩ := terminalReserves_against_position
    { uneven with netBase := .ofInt (-10000000000000007) }
  have drained : ¬ ∃ terminal,
      { uneven with netBase := .ofInt (-10000000000000007) }.terminalReserves = .ok terminal := by
    intro closable
    obtain ⟨-, pos, -⟩ := closable_iff.1 closable
    exact absurd pos (by decide)
  exact ⟨longClosed, marked, ((moves rebuilt).1 (by decide)).2 _ marked, shortClosed, priced,
    ((moves' ⟨by decide, by decide⟩).2 (by decide)).2 _ priced, drained⟩

end Curve

end PerpetualCurve
