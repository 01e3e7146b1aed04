import PerpetualCurve.Number.Rounding

/-!
# Decimal numbers of 96 digits

A decimal is `significand / 10 ^ scale`, with a significand below `2 ^ 96` in size and a scale of at
most 28. Sum, product and quotient are the exact results, rounded to the nearest decimal at the
largest scale whose significand still fits; a tie goes to the even significand.
-/

namespace PerpetualCurve

/-- The number `significand / 10 ^ scale`. -/
structure Decimal where
  significand : Int
  scale : Nat
  natAbs_lt : significand.natAbs < 2 ^ 96
  scale_le : scale ≤ 28

namespace Decimal

/-- The nearest decimal to `num / den` at the largest scale, at most `scale`, whose significand
fits. -/
def nearest? (num : Int) (den : Nat) : (scale : Nat) → scale ≤ 28 → Option Decimal
  | 0, h =>
    if hm : (roundHalfEven num den).natAbs < 2 ^ 96 then some ⟨roundHalfEven num den, 0, hm, h⟩
    else none
  | scale + 1, h =>
    if hm : (roundHalfEven (num * 10 ^ (scale + 1)) den).natAbs < 2 ^ 96 then
      some ⟨roundHalfEven (num * 10 ^ (scale + 1)) den, scale + 1, hm, h⟩
    else nearest? num den scale (Nat.le_of_succ_le h)

/-- The decimal a result of exactly `num / den` is rounded to, if the decimals reach that far. -/
def ofFraction? (num : Int) (den : Nat) : Option Decimal :=
  nearest? num den 28 (Nat.le_refl 28)

/-- The decimal `raw / 10 ^ scale`, if it needs no rounding. -/
def ofScaled? (raw : Int) (scale : Nat) : Option Decimal :=
  if h : raw.natAbs < 2 ^ 96 ∧ scale ≤ 28 then some ⟨raw, scale, h.1, h.2⟩ else none

/-- A whole number as a decimal, if it needs no rounding. -/
def ofInt? (n : Int) : Option Decimal := ofScaled? n 0

/-- A natural number as a decimal. -/
def ofNat (n : Nat) (h : n < 2 ^ 96) : Decimal := ⟨n, 0, h, Nat.zero_le 28⟩

instance : Zero Decimal := ⟨ofNat 0 (Nat.two_pow_pos 96)⟩

instance : One Decimal := ⟨ofNat 1 (by decide)⟩

instance : LE Decimal :=
  ⟨fun a b => a.significand * 10 ^ b.scale ≤ b.significand * 10 ^ a.scale⟩

instance : LT Decimal :=
  ⟨fun a b => a.significand * 10 ^ b.scale < b.significand * 10 ^ a.scale⟩

instance (a b : Decimal) : Decidable (a ≤ b) := Int.decLe _ _

instance (a b : Decimal) : Decidable (a < b) := Int.decLt _ _

instance : Max Decimal := ⟨fun a b => if a ≤ b then b else a⟩

instance : Min Decimal := ⟨fun a b => if a ≤ b then a else b⟩

/-- The rounded sum. -/
def add? (a b : Decimal) : Option Decimal :=
  ofFraction? (a.significand * 10 ^ b.scale + b.significand * 10 ^ a.scale)
    (10 ^ (a.scale + b.scale))

/-- The rounded product. -/
def mul? (a b : Decimal) : Option Decimal :=
  ofFraction? (a.significand * b.significand) (10 ^ (a.scale + b.scale))

/-- The rounded quotient; there is none by zero. -/
def div? (a b : Decimal) : Option Decimal :=
  if b.significand = 0 then none
  else
    ofFraction? (a.significand * b.significand.sign * 10 ^ b.scale)
      (b.significand.natAbs * 10 ^ a.scale)

/-- The largest whole number that is not above the decimal. -/
def floor (a : Decimal) : Int := a.significand / 10 ^ a.scale

/-- The decimal in positional notation. -/
def text (a : Decimal) : String :=
  String.ofList (positional (decide (a.significand < 0)) a.significand.natAbs a.scale)

end Decimal

end PerpetualCurve
