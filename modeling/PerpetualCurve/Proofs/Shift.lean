import Mathlib.Tactic.Ring
import PerpetualCurve.Proofs.Causes
import PerpetualCurve.Proofs.Closest
import PerpetualCurve.Proofs.Quote

/-!
# How far a half spread shifts the quote reserve

The share of the quote reserve is taken through a divisor, the spread scale over the half spread,
which is rounded down. So a shift is never less than the share it stands for, up to the rounding of
the shift itself, and less than twice as much. It does not grow evenly: past half the scale the
divisor is one, and the shift the whole reserve.

A bid cannot give up the whole reserve, and is refused. An ask is refused only where the divisor is
rounded down to zero.
-/

namespace PerpetualCurve

namespace Curve

variable {curve : Curve} {side : Side} {oracle : OracleReading} {policy : SpreadPolicy}
  {spread half refused quote : Amount} {reserves : Reserves}

/-! ## The share of the reserve -/

/-- The divisor of a shift is rounded down, so the shift is short of its share of the quote reserve
by less than one unit. -/
theorem mul_half_lt (curve : Curve) (divides : Scale.spread / half.toNat ≠ 0) :
    curve.quote.toNat * half.toNat < (curve.quoteShift half + 1) * Scale.spread := by
  have half_ne : half.toNat ≠ 0 := (Nat.div_ne_zero_iff.1 divides).1
  calc curve.quote.toNat * half.toNat
      < Scale.spread / half.toNat * (curve.quoteShift half + 1) * half.toNat :=
        Nat.mul_lt_mul_of_pos_right (Nat.lt_mul_div_succ _ (Nat.pos_of_ne_zero divides))
          (Nat.pos_of_ne_zero half_ne)
    _ = Scale.spread / half.toNat * half.toNat * (curve.quoteShift half + 1) := by ring
    _ ≤ Scale.spread * (curve.quoteShift half + 1) :=
        Nat.mul_le_mul_right _ (Nat.div_mul_le_self _ _)
    _ = (curve.quoteShift half + 1) * Scale.spread := Nat.mul_comm _ _

/-- A divisor that is not zero is more than half of what it was before it was rounded. -/
theorem quoteShift_mul_le (curve : Curve) (divides : Scale.spread / half.toNat ≠ 0) :
    curve.quoteShift half * Scale.spread ≤ 2 * curve.quote.toNat * half.toNat := by
  have half_ne : half.toNat ≠ 0 := (Nat.div_ne_zero_iff.1 divides).1
  have scale_le : Scale.spread ≤ half.toNat * (2 * (Scale.spread / half.toNat)) := by
    calc Scale.spread
        ≤ half.toNat * (Scale.spread / half.toNat + 1) :=
          Nat.le_of_lt (Nat.lt_mul_div_succ _ (Nat.pos_of_ne_zero half_ne))
      _ ≤ half.toNat * (2 * (Scale.spread / half.toNat)) := Nat.mul_le_mul_left _ (by omega)
  calc curve.quoteShift half * Scale.spread
      ≤ curve.quoteShift half * (half.toNat * (2 * (Scale.spread / half.toNat))) :=
        Nat.mul_le_mul_left _ scale_le
    _ = 2 * (curve.quoteShift half * (Scale.spread / half.toNat)) * half.toNat := by ring
    _ ≤ 2 * curve.quote.toNat * half.toNat :=
        Nat.mul_le_mul_right _ (Nat.mul_le_mul_left _ (Nat.div_mul_le_self _ _))

/-- A shift takes the whole reserve where the divisor is one, or there is nothing to take. -/
theorem quote_le_shift_iff (curve : Curve) (divides : Scale.spread / half.toNat ≠ 0) :
    curve.quote.toNat ≤ curve.quoteShift half ↔
      Scale.spread / 2 < half.toNat ∨ curve.quote.toNat = 0 := by
  obtain ⟨half_ne, half_le⟩ := Nat.div_ne_zero_iff.1 divides
  have half_pos := Nat.pos_of_ne_zero half_ne
  unfold quoteShift
  rw [Nat.le_div_iff_mul_le (Nat.pos_of_ne_zero divides)]
  constructor
  · intro covered
    by_contra neither
    obtain ⟨narrow, quote_ne⟩ := not_or.1 neither
    have two_le : 2 ≤ Scale.spread / half.toNat := by
      rw [Nat.le_div_iff_mul_le half_pos]
      omega
    have := Nat.mul_le_mul_left curve.quote.toNat two_le
    omega
  · rintro (wide | empty)
    · have divisor_eq : Scale.spread / half.toNat = 1 := by
        rw [Nat.div_eq_iff half_pos]
        omega
      rw [divisor_eq, Nat.mul_one]
    · rw [empty, Nat.zero_mul]

/-! ## What is refused -/

theorem shiftedQuote_eq_refused_iff (half_ne : half.toNat ≠ 0) :
    curve.shiftedQuote side half = .error (.spreadExceedsReserves refused) ↔
      half = refused ∧ (Scale.spread < half.toNat ∨
        side = .short ∧ (Scale.spread / 2 < half.toNat ∨ curve.quote.toNat = 0)) := by
  have divisor_eq : divide Scale.spread half.toNat (.escaped .spreadShift) =
      .ok (Scale.spread / half.toNat) := divide_eq_ok_iff.2 ⟨half_ne, rfl⟩
  rw [shiftedQuote, divisor_eq, Outcome.ok_bind]
  by_cases wide : Scale.spread < half.toNat
  · simp [Nat.div_eq_of_lt wide, wide]
  have divides : Scale.spread / half.toNat ≠ 0 := by
    rw [Nat.div_ne_zero_iff]
    exact ⟨half_ne, Nat.not_lt.1 wide⟩
  have shift_eq : divide curve.quote.toNat (Scale.spread / half.toNat) (.escaped .spreadShift) =
      .ok (curve.quoteShift half) := divide_eq_ok_iff.2 ⟨divides, rfl⟩
  cases side with
  | long => simp [divides, wide, shift_eq]
  | short => simp [divides, wide, shift_eq, curve.quote_le_shift_iff divides, and_comm]

/-- The reserves of a quote are refused where the shift is: the steps after it fail otherwise. -/
theorem spreadReserves_eq_refused_iff (h : curve.halfSpread side oracle policy = .ok spread)
    (shifts : spread.toNat / 2 ≠ 0) :
    curve.spreadReserves side oracle policy = .error (.spreadExceedsReserves refused) ↔
      refused.toNat = spread.toNat / 2 ∧ (Scale.spread < refused.toNat ∨
        side = .short ∧ (Scale.spread / 2 < refused.toNat ∨ curve.quote.toNat = 0)) := by
  have half_lt := Nat.lt_of_le_of_lt (Nat.div_le_self spread.toNat 2) spread.toNat_lt
  have half_ne : (⟨spread.toNat / 2, half_lt⟩ : Amount).toNat ≠ 0 := shifts
  simp only [spreadReserves, h, Outcome.ok_bind, if_neg half_ne, invariant_eq,
    Outcome.bind_eq_error_iff, shiftedQuote_eq_refused_iff half_ne, divide_eq_error_iff,
    narrow_eq_error_iff, Outcome.pure_ne_error, reduceCtorEq, and_false, exists_false, or_false]
  constructor
  · rintro ⟨rfl, refusal⟩
    exact ⟨rfl, refusal⟩
  · rintro ⟨refused_eq, refusal⟩
    rw [refused_eq] at refusal
    exact ⟨Unsigned.ext refused_eq.symm, refusal⟩

/-! ## What is quoted -/

/-- `reserves` are those of the curve, with the quote reserve shifted by a `half` spread in the
direction of the side. -/
structure ShiftsTo (curve : Curve) (side : Side) (half : Nat) (reserves : Reserves) : Prop where
  le_distance :
    curve.quote.toNat * half / Scale.spread ≤ reserves.quote.distance curve.quote
  distance_le :
    reserves.quote.distance curve.quote * Scale.spread ≤ 2 * curve.quote.toNat * half
  quote_eq : match side with
    | .long => reserves.quote.toNat = curve.quote.toNat + reserves.quote.distance curve.quote
    | .short => reserves.quote.toNat + reserves.quote.distance curve.quote = curve.quote.toNat
  rebuilt : reserves.BaseRebuilt curve.sqrtK

theorem distance_shiftedQuote (h : curve.shiftedQuote side half = .ok quote) :
    quote.distance curve.quote = curve.quoteShift half := by
  cases side with
  | long =>
    have moved := (shiftedQuote_long_eq_ok_iff.1 h).2
    unfold Unsigned.distance
    omega
  | short =>
    have moved := (shiftedQuote_short_eq_ok_iff.1 h).2.2
    unfold Unsigned.distance
    omega

theorem divides_of_shiftedQuote (h : curve.shiftedQuote side half = .ok quote) :
    Scale.spread / half.toNat ≠ 0 := by
  cases side with
  | long => exact (shiftedQuote_long_eq_ok_iff.1 h).1
  | short => exact (shiftedQuote_short_eq_ok_iff.1 h).1

theorem spreadReserves_shiftsTo (h : curve.halfSpread side oracle policy = .ok spread)
    (shifts : spread.toNat / 2 ≠ 0) (hr : curve.spreadReserves side oracle policy = .ok reserves) :
    curve.ShiftsTo side (spread.toNat / 2) reserves := by
  obtain ⟨_, half, hspread, hhalf, ⟨zero, -⟩ | ⟨-, hshifted, hne, hbase⟩⟩ :=
    spreadReserves_eq_ok_iff.1 hr
  all_goals cases h.symm.trans hspread
  · omega
  have distance_eq := distance_shiftedQuote hshifted
  have divides := divides_of_shiftedQuote hshifted
  rw [← hhalf]
  constructor
  case le_distance =>
    rw [distance_eq, ← Nat.lt_succ_iff]
    exact Nat.div_lt_of_lt_mul (Nat.mul_comm _ Scale.spread ▸ curve.mul_half_lt divides)
  case distance_le =>
    rw [distance_eq]
    exact curve.quoteShift_mul_le divides
  case quote_eq =>
    rw [distance_eq]
    cases side with
    | long => exact (shiftedQuote_long_eq_ok_iff.1 hshifted).2
    | short => exact (shiftedQuote_short_eq_ok_iff.1 hshifted).2.2
  case rebuilt => exact ⟨Nat.pos_of_ne_zero hne, hbase⟩

/-- Given the half spread, a quote that shifts nothing has the curve's own reserves. One that shifts
is refused where half of it exceeds the spread scale, and on the bid where it exceeds half the scale
or there is no quote reserve; the cause names the shift. Otherwise the quote reserve moves by its
share, or less than twice that, and the base reserve is rebuilt beside it. -/
theorem spreadReserves_refused_or_shifted
    (h : curve.halfSpread side oracle policy = .ok spread) :
    (spread.toNat / 2 = 0 → curve.spreadReserves side oracle policy = .ok curve.toReserves) ∧
    (spread.toNat / 2 ≠ 0 →
      (∀ refused : Amount,
        curve.spreadReserves side oracle policy = .error (.spreadExceedsReserves refused) ↔
          refused.toNat = spread.toNat / 2 ∧ (Scale.spread < refused.toNat ∨
            side = .short ∧ (Scale.spread / 2 < refused.toNat ∨ curve.quote.toNat = 0))) ∧
      ∀ reserves, curve.spreadReserves side oracle policy = .ok reserves →
        curve.ShiftsTo side (spread.toNat / 2) reserves) := by
  constructor
  · intro zero
    have half_lt := Nat.lt_of_le_of_lt (Nat.div_le_self spread.toNat 2) spread.toNat_lt
    exact spreadReserves_eq_ok_iff.2 ⟨spread, ⟨_, half_lt⟩, h, rfl, .inl ⟨zero, rfl⟩⟩
  · intro shifts
    exact ⟨fun _ => spreadReserves_eq_refused_iff h shifts,
      fun _ => spreadReserves_shiftsTo h shifts⟩

/-- A curve whose base spread is more than twice the price. -/
def gaping : Curve := { uneven with baseSpread := .ofNat 2000004, intensity := .ofNat 0 }

theorem gaping_refused_or_shifted :
    gaping.spreadReserves .short { price := .ofInt 551234567891 } .costBasis =
      .error (.spreadExceedsReserves (.ofNat 500001)) ∧
    gaping.spreadReserves .long { price := .ofInt 551234567891 } .costBasis =
      .ok { base := .ofNat 5000000000000003, quote := .ofNat 19999999999999986 } ∧
    gaping.ShiftsTo .long 500001
      { base := .ofNat 5000000000000003, quote := .ofNat 19999999999999986 } := by
  have spread_eq (side : Side) :
      gaping.halfSpread side { price := .ofInt 551234567891 } .costBasis =
        .ok (.ofNat 1000002) := by
    cases side <;> decide
  obtain ⟨refusal, -⟩ := (spreadReserves_refused_or_shifted (spread_eq .short)).2 (by decide)
  obtain ⟨-, shifted⟩ := (spreadReserves_refused_or_shifted (spread_eq .long)).2 (by decide)
  have quoted : gaping.spreadReserves .long { price := .ofInt 551234567891 } .costBasis =
      .ok { base := .ofNat 5000000000000003, quote := .ofNat 19999999999999986 } := by
    decide +kernel
  exact ⟨(refusal _).2 (by decide), quoted, shifted _ quoted⟩

end Curve

end PerpetualCurve
