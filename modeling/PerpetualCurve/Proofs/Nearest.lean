import Mathlib.Algebra.Order.Round
import Mathlib.Data.Rat.Floor
import Mathlib.Tactic.Ring
import PerpetualCurve.Proofs.Cost
import PerpetualCurve.Proofs.Price

/-!
# The nearest peg

One unit of the peg moves the price of the reserves by `priceToPeg * quote / base`. The peg for a
price divides twice and adds half a unit in between, but the two floors collapse: it is the price
divided by what a unit of the peg is worth, rounded once. So it misses the price by at most half
such a unit, and no other peg misses it by less. It is recovered from the price it gives, rounded
down as that price is, unless a unit of price weighs more than half a unit of the peg.
-/

namespace PerpetualCurve

/-- Adding to a rounded quotient before it is divided again is adding to the dividend. -/
theorem div_add_div (n : Nat) {b : Nat} (hb : 0 < b) (s r : Nat) :
    (n / b + s) / r = (n + s * b) / (r * b) := by
  rw [← Nat.add_mul_div_right n s hb, Nat.div_div_eq_div_mul, Nat.mul_comm b]

/-- A quotient that half a unit was added to misses by at most half a unit. -/
theorem two_mul_rounding_le {unit half : Nat} (n : Nat) (pos : 0 < unit)
    (halves : 2 * half = unit) :
    2 * (((n + half) / unit * unit : Nat) - n : Int).natAbs ≤ unit := by
  have below := Nat.div_mul_le_self (n + half) unit
  have above : n + half < (n + half) / unit * unit + unit := by
    rw [← Nat.succ_mul, Nat.mul_comm]
    exact Nat.lt_mul_div_succ _ pos
  omega

/-- A multiple of the unit that misses by at most half a unit is missed by no other by less. -/
theorem natAbs_sub_le_of_half {unit n p : Nat}
    (near : 2 * ((p * unit : Nat) - n : Int).natAbs ≤ unit) (other : Nat) :
    ((p * unit : Nat) - n : Int).natAbs ≤ ((other * unit : Nat) - n : Int).natAbs := by
  rcases Nat.lt_trichotomy other p with less | rfl | more
  · have apart : (other + 1) * unit ≤ p * unit := Nat.mul_le_mul_right _ less
    rw [Nat.succ_mul] at apart
    omega
  · exact Nat.le_refl _
  · have apart : (p + 1) * unit ≤ other * unit := Nat.mul_le_mul_right _ more
    rw [Nat.succ_mul] at apart
    omega

/-- Adding half a unit before a division is adding a whole one where both sides are doubled. -/
theorem add_half_div {unit half : Nat} (n : Nat) (halves : 2 * half = unit) :
    (n + half) / unit = (2 * n + unit) / (2 * unit) := by
  rw [← Nat.mul_div_mul_left _ unit Nat.two_pos, Nat.mul_add, halves]

/-- To round the exact ratio of two numbers half up takes one division. -/
theorem round_natCast_div (n : Nat) {unit : Nat} (pos : 0 < unit) :
    round ((n : ℚ) / unit) = ((2 * n + unit) / (2 * unit) : Nat) := by
  have unit_ne : (unit : ℚ) ≠ 0 := Nat.cast_ne_zero.2 (Nat.ne_of_gt pos)
  have raised : (n : ℚ) / unit + 1 / 2 = ((2 * n + unit : Nat) : ℚ) / (2 * unit : Nat) := by
    push_cast
    field_simp
  rw [round_eq, raised, Rat.floor_natCast_div_natCast, Int.natCast_ediv]

/-- Half a unit of the peg, weighed by the quote reserve. -/
theorem two_mul_half_priceToPeg (n : Nat) :
    2 * (Scale.priceToPeg / 2 * n) = Scale.priceToPeg * n := by
  rw [← Nat.mul_assoc]
  rfl

variable {base quote price peg target : Amount}

/-- The peg that meets a price is rounded once, half a unit going up, and is at least one. -/
theorem pegForPrice_toNat (h : pegForPrice base quote price = .ok target) :
    quote.toNat ≠ 0 ∧
      target.toNat = max 1 ((price.toNat * base.toNat + Scale.priceToPeg / 2 * quote.toNat) /
        (Scale.priceToPeg * quote.toNat)) := by
  simp only [pegForPrice, Outcome.bind_eq_ok_iff, Outcome.pure_eq_ok_iff,
    Unsigned.checked_eq_ok_iff, divide_eq_ok_iff, narrow_eq_ok_iff] at h
  obtain ⟨value, hvalue, _, ⟨hquote, rfl⟩, raised, hraised, nearest, hnearest, rfl⟩ := h
  refine ⟨hquote, ?_⟩
  rw [hraised, hvalue, div_add_div _ (Nat.pos_of_ne_zero hquote)] at hnearest
  rw [← hnearest]
  split
  case isTrue none =>
    rw [none]
    rfl
  case isFalse some => omega

/-- A price of at least half a unit of the peg is missed by at most half a unit. -/
theorem pegForPrice_near (h : pegForPrice base quote price = .ok target)
    (half_le : Scale.priceToPeg * quote.toNat ≤ 2 * (price.toNat * base.toNat)) :
    2 * ((target.toNat * (Scale.priceToPeg * quote.toNat) : Nat) -
      (price.toNat * base.toNat : Nat) : Int).natAbs ≤ Scale.priceToPeg * quote.toNat := by
  obtain ⟨hquote, htarget⟩ := pegForPrice_toNat h
  have halves := two_mul_half_priceToPeg quote.toNat
  have unit_pos : 0 < Scale.priceToPeg * quote.toNat :=
    Nat.mul_pos (by decide) (Nat.pos_of_ne_zero hquote)
  rw [max_eq_right ((Nat.one_le_div_iff unit_pos).2 (by omega))] at htarget
  rw [htarget]
  exact two_mul_rounding_le _ unit_pos halves

/-- The peg for a price is the exact ratio of the price to what a unit of the peg is worth, rounded
half up in one step, and at least one. It misses a price of at least half such a unit by at most
half of one, and no other peg misses it by less. -/
theorem pegForPrice_nearest (h : pegForPrice base quote price = .ok target) :
    target.toNat = max 1 ((2 * (price.toNat * base.toNat) + Scale.priceToPeg * quote.toNat) /
        (2 * (Scale.priceToPeg * quote.toNat))) ∧
    (target.toNat : Int) =
      max 1 (round (((price.toNat * base.toNat : Nat) : ℚ) /
        (Scale.priceToPeg * quote.toNat : Nat))) ∧
    (Scale.priceToPeg * quote.toNat ≤ 2 * (price.toNat * base.toNat) →
      2 * ((target.toNat * (Scale.priceToPeg * quote.toNat) : Nat) -
          (price.toNat * base.toNat : Nat) : Int).natAbs ≤ Scale.priceToPeg * quote.toNat ∧
      ∀ other : Nat,
        ((target.toNat * (Scale.priceToPeg * quote.toNat) : Nat) -
            (price.toNat * base.toNat : Nat) : Int).natAbs ≤
          ((other * (Scale.priceToPeg * quote.toNat) : Nat) -
            (price.toNat * base.toNat : Nat) : Int).natAbs) := by
  obtain ⟨hquote, htarget⟩ := pegForPrice_toNat h
  have unit_pos : 0 < Scale.priceToPeg * quote.toNat :=
    Nat.mul_pos (by decide) (Nat.pos_of_ne_zero hquote)
  rw [add_half_div _ (two_mul_half_priceToPeg quote.toNat)] at htarget
  refine ⟨htarget, ?_, ?_⟩
  · rw [round_natCast_div _ unit_pos, htarget, Nat.cast_max, Nat.cast_one]
  · intro half_le
    have near := pegForPrice_near h half_le
    exact ⟨near, natAbs_sub_le_of_half near⟩

/-- At a price halfway between two pegs the higher one is taken, and the lower one misses by as
much. -/
theorem halfway_pegForPrice_nearest :
    pegForPrice (.ofNat 7) (.ofNat 3) (.ofNat 15000000) = .ok (.ofNat 4) ∧
    (4 : Nat) =
      max 1 ((2 * (15000000 * 7) + Scale.priceToPeg * 3) / (2 * (Scale.priceToPeg * 3))) ∧
    (4 : Int) = max 1 (round (((15000000 * 7 : Nat) : ℚ) / (Scale.priceToPeg * 3 : Nat))) ∧
    2 * ((4 * (Scale.priceToPeg * 3) : Nat) - (15000000 * 7 : Nat) : Int).natAbs ≤
      Scale.priceToPeg * 3 ∧
    ((4 * (Scale.priceToPeg * 3) : Nat) - (15000000 * 7 : Nat) : Int).natAbs ≤
      ((3 * (Scale.priceToPeg * 3) : Nat) - (15000000 * 7 : Nat) : Int).natAbs := by
  have met : pegForPrice (.ofNat 7) (.ofNat 3) (.ofNat 15000000) = .ok (.ofNat 4) := by
    decide +kernel
  obtain ⟨rounded, rounded_once, near⟩ := pegForPrice_nearest met
  obtain ⟨close, nearest⟩ := near (by decide)
  exact ⟨met, rounded, rounded_once, close, nearest 3⟩

/-- The mark under the peg for a price misses the price by at most half a unit of the peg and a unit
of price. -/
theorem mark_near_price {mark : Amount} (h : pegForPrice base quote price = .ok target)
    (hmark : priceOf base quote target = .ok mark) (hbase : base.toNat ≠ 0)
    (half_le : Scale.priceToPeg * quote.toNat ≤ 2 * (price.toNat * base.toNat)) :
    2 * base.toNat * (mark.toNat - price.toNat : Int).natAbs ≤
      Scale.priceToPeg * quote.toNat + 2 * base.toNat := by
  have near := pegForPrice_near h half_le
  obtain ⟨below, above⟩ := priceOf_bracket hmark hbase
  rw [Nat.succ_mul] at above
  rw [Nat.mul_comm target.toNat] at near
  have weighed : base.toNat * (mark.toNat - price.toNat : Int).natAbs =
      ((mark.toNat * base.toNat : Nat) - (price.toNat * base.toNat : Nat) : Int).natAbs := by
    rw [Int.natCast_mul, Int.natCast_mul, ← Int.sub_mul, Int.natAbs_mul, Nat.mul_comm]
    rfl
  rw [Nat.mul_assoc, weighed]
  omega

/-- A peg is recovered from the price it gives where a unit of price weighs at most half a unit of
the peg. -/
theorem pegForPrice_of_priceOf (h : pegForPrice base quote price = .ok target)
    (hprice : priceOf base quote peg = .ok price) (hbase : base.toNat ≠ 0) (hpeg : 1 ≤ peg.toNat)
    (fine : base.toNat ≤ Scale.priceToPeg / 2 * quote.toNat) : target = peg := by
  obtain ⟨hquote, htarget⟩ := pegForPrice_toNat h
  obtain ⟨below, above⟩ := priceOf_bracket hprice hbase
  have halves := two_mul_half_priceToPeg quote.toNat
  have quote_pos := Nat.pos_of_ne_zero hquote
  have rounded : (price.toNat * base.toNat + Scale.priceToPeg / 2 * quote.toNat) /
      (Scale.priceToPeg * quote.toNat) = peg.toNat := by
    rw [Nat.succ_mul] at above
    apply Nat.div_eq_of_lt_le
    · rw [Nat.mul_comm peg.toNat]
      omega
    · rw [Nat.succ_mul, Nat.mul_comm peg.toNat]
      omega
  rw [Unsigned.ext_iff, htarget, rounded]
  exact max_eq_right hpeg

end PerpetualCurve
