import PerpetualCurve.Proofs.Depth

/-!
# Buying base and selling it back

The quote a trader pays is converted into reserve units through the peg, and what the curve releases
when all of the base is sold again is converted back. The reserves return to where they were, and
both conversions round down, so their remainders stay with the pool. But a payout has one unit added
to it, which makes it more than the curve released. Where the conversion on the way there leaves no
remainder, the trader gets back one unit more than was paid.
-/

namespace PerpetualCurve

/-- An amount that is converted down and back stays below itself exactly where the first conversion
leaves a remainder. -/
theorem div_mul_div_lt_iff (amount peg : Nat) {scale : Nat} (pos : 0 < scale) :
    amount * scale / peg * peg / scale < amount ↔ ¬ peg ∣ amount * scale := by
  rw [Nat.div_lt_iff_lt_mul pos, Nat.dvd_iff_div_mul_eq]
  have := Nat.div_mul_le_self (amount * scale) peg
  omega

theorem div_mul_div_le (amount peg : Nat) {scale : Nat} (pos : 0 < scale) :
    amount * scale / peg * peg / scale ≤ amount := by
  calc amount * scale / peg * peg / scale
      ≤ amount * scale / scale := Nat.div_le_div_right (Nat.div_mul_le_self _ _)
    _ = amount := Nat.mul_div_cancel _ pos

section Payout

variable {released peg payout : Amount}

theorem quoteAmountSwapped_remove_eq_ok
    (h : quoteAmountSwapped released peg .remove = .ok payout) :
    payout.toNat = released.toNat * peg.toNat / Scale.reservePegToQuote + 1 := by
  simp only [quoteAmountSwapped, Outcome.bind_eq_ok_iff, mulDiv_eq_ok_iff,
    Unsigned.checked_eq_ok_iff] at h
  obtain ⟨amount, ⟨-, -, hamount⟩, hpayout⟩ := h
  rw [hpayout, hamount]

/-- A payout is worth more than the reserve units it is paid for. -/
theorem released_lt_payout (h : quoteAmountSwapped released peg .remove = .ok payout) :
    released.toNat * peg.toNat < payout.toNat * Scale.reservePegToQuote := by
  rw [quoteAmountSwapped_remove_eq_ok h, Nat.mul_comm (_ + 1)]
  exact Nat.lt_mul_div_succ _ (by decide)

end Payout

namespace Curve

/-- A purchase of base for the quote amount `spent`, and the sale of all the base bought. -/
structure RoundTrip (curve : Curve) (spent : SignedAmount) where
  there : Reserves
  there_eq : curve.reservesAfterSwap .quote spent .add = .ok there
  bought : SignedAmount
  bought_eq : bought.toInt = curve.base.toNat - there.base.toNat
  back : Reserves
  back_eq : { curve with toReserves := there }.reservesAfterSwap .base bought .add = .ok back
  /-- The reserve units of quote that the sale takes out of the pool. -/
  released : Amount
  released_eq : released.toNat + back.quote.toNat = there.quote.toNat
  payout : Amount
  payout_eq : quoteAmountSwapped released curve.peg .remove = .ok payout

namespace RoundTrip

variable {curve : Curve} {spent : SignedAmount}

/-- The sale leaves no trace in the reserves. -/
theorem back_eq_start (trip : curve.RoundTrip spent) (rebuilt : curve.QuoteRebuilt curve.sqrtK) :
    trip.back = curve.toReserves := by
  obtain ⟨-, moved, -, quote_eq⟩ := reservesAfterSwap_base_eq_ok_iff.1 trip.back_eq
  have base_eq : trip.back.base.toNat = curve.base.toNat := by
    have := trip.bought_eq
    simp only [Flow.sign] at moved
    omega
  apply Reserves.ext
  · exact Unsigned.ext base_eq
  · apply Unsigned.ext
    rw [quote_eq, base_eq]
    exact rebuilt.quote_eq.symm

/-- What the sale releases is what the amount spent was converted into. -/
theorem released_toNat (trip : curve.RoundTrip spent) (rebuilt : curve.QuoteRebuilt curve.sqrtK) :
    ∃ size : Amount, (size.toNat : Int) = spent.toInt ∧
      trip.released.toNat = size.toNat * Scale.reservePegToQuote / curve.peg.toNat := by
  obtain ⟨size, shift, move, hsize, hshift, hmove, moved, -, -⟩ :=
    reservesAfterSwap_quote_eq_ok_iff.1 trip.there_eq
  obtain ⟨-, -, shift_eq⟩ := mulDiv_eq_ok_iff.1 hshift
  have released_eq := trip.released_eq
  rw [trip.back_eq_start rebuilt] at released_eq
  simp only [Flow.sign] at moved
  refine ⟨size, hsize, ?_⟩
  rw [← shift_eq]
  omega

/-- A round trip ends on the reserves it started from. It pays out more than the curve releases, and
at most one unit more than was spent. The trader makes no profit exactly where the conversion of the
amount spent leaves a remainder. -/
theorem payout_le_spent_iff (trip : curve.RoundTrip spent)
    (rebuilt : curve.QuoteRebuilt curve.sqrtK) :
    trip.back = curve.toReserves ∧
    trip.released.toNat * curve.peg.toNat < trip.payout.toNat * Scale.reservePegToQuote ∧
    trip.payout.toNat ≤ spent.toInt + 1 ∧
    (trip.payout.toNat ≤ spent.toInt ↔
      ¬ (curve.peg.toNat : Int) ∣ spent.toInt * Scale.reservePegToQuote) := by
  obtain ⟨size, hsize, released_eq⟩ := trip.released_toNat rebuilt
  have payout_eq := quoteAmountSwapped_remove_eq_ok trip.payout_eq
  rw [released_eq] at payout_eq
  rw [← hsize]
  have scale_pos : 0 < Scale.reservePegToQuote := by decide
  refine ⟨trip.back_eq_start rebuilt, released_lt_payout trip.payout_eq, ?_, ?_⟩
  · have returned_le := div_mul_div_le size.toNat curve.peg.toNat scale_pos
    omega
  · have returned_lt_iff := div_mul_div_lt_iff size.toNat curve.peg.toNat scale_pos
    have dvd_iff : (curve.peg.toNat : Int) ∣ size.toNat * Scale.reservePegToQuote ↔
        curve.peg.toNat ∣ size.toNat * Scale.reservePegToQuote := by
      rw [← Int.natCast_dvd_natCast, Int.natCast_mul]
    rw [dvd_iff, ← returned_lt_iff]
    omega

/-- A curve whose peg converts every amount of quote without a remainder. -/
def wholeUnits : Curve where
  base := .ofNat 10000000000000007
  quote := .ofNat 9999999999999993
  sqrtK := .ofNat 10000000000000000
  peg := .ofNat 50000

/-- Under a peg that leaves a remainder, a million units buy 181409186562 units of base. -/
def splitUnits : { wholeUnits with peg := .ofNat 55123 }.RoundTrip (.ofInt 1000000) where
  there := { base := .ofNat 9999818590813445, quote := .ofNat 10000181412477543 }
  there_eq := by decide +kernel
  bought := .ofInt 181409186562
  bought_eq := by decide
  back := wholeUnits.toReserves
  back_eq := by decide +kernel
  released := .ofNat 181412477550
  released_eq := by decide
  payout := .ofNat 1000000
  payout_eq := by decide +kernel

theorem splitUnits_payout_le :
    { wholeUnits with peg := .ofNat 55123 }.QuoteRebuilt wholeUnits.sqrtK ∧
    splitUnits.back = wholeUnits.toReserves ∧
    181412477550 * 55123 < 1000000 * Scale.reservePegToQuote ∧
    (splitUnits.payout.toNat : Int) ≤ (.ofInt 1000000 : SignedAmount).toInt ∧
    ¬ (55123 : Int) ∣ 1000000 * Scale.reservePegToQuote := by
  have rebuilt : { wholeUnits with peg := .ofNat 55123 }.QuoteRebuilt wholeUnits.sqrtK := by
    constructor <;> decide
  have remainder : ¬ (55123 : Int) ∣ 1000000 * Scale.reservePegToQuote := by decide
  obtain ⟨returned, released_lt, -, payout_le_iff⟩ := splitUnits.payout_le_spent_iff rebuilt
  exact ⟨rebuilt, returned, released_lt, payout_le_iff.2 remainder, remainder⟩

/-- A hundred units buy 20000000 units of base, which are sold for a hundred and one. -/
def wholeUnitsTrip : wholeUnits.RoundTrip (.ofInt 100) where
  there := { base := .ofNat 9999999980000007, quote := .ofNat 10000000019999993 }
  there_eq := by decide +kernel
  bought := .ofInt 20000000
  bought_eq := by decide
  back := wholeUnits.toReserves
  back_eq := by decide +kernel
  released := .ofNat 20000000
  released_eq := by decide
  payout := .ofNat 101
  payout_eq := by decide +kernel

theorem not_payout_le_spent :
    ¬ ∀ (curve : Curve) (spent : SignedAmount) (trip : curve.RoundTrip spent),
      curve.QuoteRebuilt curve.sqrtK → trip.payout.toNat ≤ spent.toInt := by
  intro unprofitable
  have rebuilt : wholeUnits.QuoteRebuilt wholeUnits.sqrtK := by constructor <;> decide
  exact absurd (unprofitable _ _ wholeUnitsTrip rebuilt) (by decide)

end RoundTrip

end Curve

end PerpetualCurve
